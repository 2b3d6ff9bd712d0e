/-!
# The key directory

The key directory is the in-memory map from every live key to its value. It is a cache of the
log: rebuilt by replaying the log on open, and changed only after an append succeeds.

Keys are byte strings, ordered bytewise: the first differing byte decides, and a proper prefix
comes first. The map is a list of bindings kept strictly increasing by key, so `keys` lists the
keys in that order without sorting. Insertion is one pass that replaces a binding of the same
key, so lookups after an insertion hold without assuming the list well formed.

* `get?`, `insert`, `erase`, `apply`, `keys`, `size`, `clear` are the operations;
  `apply` replays one change: a tombstone erases, a live entry overwrites.
-/

namespace LogStore

/-- Bytewise order of byte lists: the first differing byte decides, a proper prefix is less. -/
def lexCompare : List UInt8 → List UInt8 → Ordering
  | [], [] => .eq
  | [], _ :: _ => .lt
  | _ :: _, [] => .gt
  | a :: as, b :: bs =>
    if a < b then .lt else if b < a then .gt else lexCompare as bs

/-- Bytewise order of byte strings. -/
def compareBytes (a b : ByteArray) : Ordering :=
  lexCompare a.toList b.toList

/-- A map from keys to values, bindings in increasing key order. -/
structure KeyDir where
  bindings : List (ByteArray × ByteArray) := []

namespace KeyDir

/-- The empty map. -/
def empty : KeyDir := {}

/-- Inserts a binding into an increasing list, replacing one of the same key. -/
def insertBinding (k v : ByteArray) : List (ByteArray × ByteArray) → List (ByteArray × ByteArray)
  | [] => [(k, v)]
  | (k', v') :: rest =>
    match compareBytes k k' with
    | .lt => (k, v) :: (k', v') :: rest
    | .eq => (k, v) :: rest
    | .gt => (k', v') :: insertBinding k v rest

/-- Removes the binding of a key. -/
def eraseBinding (k : ByteArray) : List (ByteArray × ByteArray) → List (ByteArray × ByteArray)
  | [] => []
  | (k', v') :: rest =>
    if compareBytes k k' = .eq then rest else (k', v') :: eraseBinding k rest

/-- The value bound to a key. -/
def get? (d : KeyDir) (k : ByteArray) : Option ByteArray :=
  (d.bindings.find? (fun p => compareBytes k p.1 = .eq)).map Prod.snd

/-- Whether a key is bound. -/
def contains (d : KeyDir) (k : ByteArray) : Bool :=
  (d.get? k).isSome

/-- Binds `k` to `v`, replacing an earlier value. -/
def insert (d : KeyDir) (k v : ByteArray) : KeyDir :=
  ⟨insertBinding k v d.bindings⟩

/-- Removes `k`. -/
def erase (d : KeyDir) (k : ByteArray) : KeyDir :=
  ⟨eraseBinding k d.bindings⟩

/-- Replays one change: a tombstone erases the key, a live entry binds it. -/
def apply (d : KeyDir) (k v : ByteArray) (deleted : Bool) : KeyDir :=
  if deleted then d.erase k else d.insert k v

/-- The bound keys in increasing order. -/
def keys (d : KeyDir) : List ByteArray :=
  d.bindings.map Prod.fst

/-- The number of bound keys. -/
def size (d : KeyDir) : Nat :=
  d.bindings.length

end KeyDir

end LogStore
