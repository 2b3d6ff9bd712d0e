import LogStore.Cli.Program

/-!
# The files of a run

A run works on a disk that holds the files it reads. To run `kvdb` on a machine's files, the
program first gathers those files, then runs, then applies to the machine what the run changed:

* `readsFrom env args d` names the paths whose contents a run may read, as far as the disk `d`
  gathered so far tells: the configuration file, the log the settings name, and, for `export`
  and `import`, the snapshot directory and its files. Gathering four times is enough: the log's
  path depends on the configuration, a snapshot's manifest on its `CURRENT` file, and its
  numbered files on the manifest.
* `Disk.withPath d p b` places a file gathered from the machine, with the directories above it.
* `Disk.changes before after` lists what a run did: the directories it made, the files it wrote
  or changed, and the files it removed, in an order that can be applied one after the other.
-/

namespace LogStore

/-- A change to the files of a machine. -/
inductive Change where
  | makeDir (path : String)
  | write (path : String) (contents : ByteArray)
  | remove (path : String)

namespace Disk

/-- The disk with a file gathered from the machine, and the directories above it. -/
def withPath (d : Disk) (path : String) (contents : ByteArray) : Disk :=
  let d := (d.mkdirAll (Path.dir (Path.abs d.cwd path))).toOption.getD d
  (d.writeFile path contents).toOption.getD d

/-- The changes that turn the files of `before` into those of `after`: new directories, from the
outermost in, then files new or with other contents, then files gone. -/
def changes (before after : Disk) : List Change :=
  let made := (after.tree.nodes.filter fun p =>
      p.2 = .dir && before.tree.node? p.1 ≠ some .dir).mergeSort
    (fun a b => decide (a.1.length ≤ b.1.length))
  let written := after.tree.nodes.filterMap fun p =>
    match p.2 with
    | .dir => none
    | .file ino =>
      let now := after.tree.contents ino
      match before.tree.node? p.1 with
      | some (.file old) =>
        if before.tree.contents old == now then none else some (Change.write (Path.ofParts p.1) now)
      | _ => some (Change.write (Path.ofParts p.1) now)
  let gone := before.tree.nodes.filterMap fun p =>
    match p.2, after.tree.node? p.1 with
    | .file _, none => some (Change.remove (Path.ofParts p.1))
    | _, _ => none
  made.map (fun p => Change.makeDir (Path.ofParts p.1)) ++ written ++ gone

end Disk

namespace Cli

/-- The files a snapshot database may hold. -/
def snapshotFiles : List String :=
  [Snapshot.markerFile, Snapshot.lockFile, Snapshot.tableFile] ++ Snapshot.otherFiles

/-- The files of a snapshot database that the disk gathered so far points to: the fixed ones,
the manifest `CURRENT` names, and, once the manifest is there, every log, table and options
file numbered below its next file number. -/
def snapshotReads (d : Disk) (dir : String) : List String :=
  let fixed := snapshotFiles.map (Path.join dir ·)
  match Snapshot.readCurrent d dir with
  | .ok (some n) =>
    let manifest := Path.join dir (Snapshot.manifestName n)
    let numbered := match d.contentsAt manifest with
      | .ok b =>
        match Snapshot.Manifest.load Snapshot.comparerName.toUTF8 b with
        | .ok m => (List.range (m.nextFile + 1)).flatMap fun k =>
            [Snapshot.logName k, Snapshot.tableName k, Snapshot.optionsName k].map (Path.join dir ·)
        | .error _ => []
      | .error _ => []
    fixed ++ manifest :: numbered
  | _ => fixed

/-- The paths a run of `kvdb` may read, as far as the disk gathered so far tells. -/
def readsFrom (env : Env) (args : List String) (d : Disk) : List String :=
  match (treeFor args).resolve args with
  | .run c vs rest =>
    let given := flagValue c vs "config"
    let config := if given.isEmpty then defaultConfigPath env.home else given
    let settings := ((((loadSettings env c vs).run).run {}).run { disk := d }).1
    let log := match settings.1 with
      | .ok cfg => cfg.pathText
      | .error _ => Config.default.pathText
    let snapshot := match c.path, rest with
      | ["export"], [dir] | ["import"], [dir] => dir :: snapshotReads d dir
      | _, _ => []
    config :: log :: snapshot
  | _ => []

end Cli

end LogStore
