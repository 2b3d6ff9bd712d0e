/-!
# API documentation pages

The server describes its own API: a browser page that loads an interactive viewer, and the
OpenAPI 2.0 description of every route that the viewer reads. Both are fixed texts; the
description names the documented host and the base path of the routes.
-/

namespace LogStore.Http

/-- The HTML page of the interactive API viewer. -/
def docsPage : String :=
"<!DOCTYPE html>
<html>
<head>
\t<title>KVDB API Documentation</title>
\t<link rel=\"stylesheet\" type=\"text/css\" href=\"https://unpkg.com/swagger-ui-dist@3.25.0/swagger-ui.css\" />
</head>
<body>
\t<div id=\"swagger-ui\"></div>
\t<script src=\"https://unpkg.com/swagger-ui-dist@3.25.0/swagger-ui-bundle.js\"></script>
\t<script>
\t  window.onload = function() \x7b
\t    SwaggerUIBundle(\x7b
\t      url: \x27/swagger/swagger.json\x27,
\t      dom_id: \x27#swagger-ui\x27,
\t      presets: [
\t        SwaggerUIBundle.presets.apis,
\t        SwaggerUIBundle.presets.standalone
\t      ]
\t    \x7d);
\t  \x7d;
\t</script>
</body>
</html>"

/-- The OpenAPI 2.0 description of the API. -/
def docsSpec : String :=
"\x7b
    \"schemes\": [],
    \"swagger\": \"2.0\",
    \"info\": \x7b
        \"description\": \"REST API over a single-file durable key-value store.\",
        \"title\": \"KVDB REST API\",
        \"contact\": \x7b\x7d,
        \"version\": \"1.0.0\"
    \x7d,
    \"host\": \"localhost:8080\",
    \"basePath\": \"/api/v1\",
    \"paths\": \x7b
        \"/health\": \x7b
            \"get\": \x7b
                \"security\": [\x7b\"ApiKeyAuth\": []\x7d],
                \"description\": \"Get the health status of the API\",
                \"produces\": [\"application/json\"],
                \"tags\": [\"health\"],
                \"summary\": \"Health check\",
                \"responses\": \x7b
                    \"200\": \x7b\"description\": \"OK\", \"schema\": \x7b\"$ref\": \"#/definitions/api.APIResponse\"\x7d\x7d
                \x7d
            \x7d
        \x7d,
        \"/kv\": \x7b
            \"get\": \x7b
                \"security\": [\x7b\"ApiKeyAuth\": []\x7d],
                \"description\": \"List all live keys in sorted order\",
                \"produces\": [\"application/json\"],
                \"tags\": [\"kv\"],
                \"summary\": \"List keys\",
                \"responses\": \x7b
                    \"200\": \x7b\"description\": \"OK\", \"schema\": \x7b\"$ref\": \"#/definitions/api.KeysResponse\"\x7d\x7d
                \x7d
            \x7d
        \x7d,
        \"/kv/\x7bkey\x7d\": \x7b
            \"get\": \x7b
                \"security\": [\x7b\"ApiKeyAuth\": []\x7d],
                \"description\": \"Retrieve the raw value stored under key\",
                \"produces\": [\"application/octet-stream\"],
                \"tags\": [\"kv\"],
                \"summary\": \"Get a value by key\",
                \"parameters\": [
                    \x7b\"type\": \"string\", \"description\": \"Key\", \"name\": \"key\", \"in\": \"path\", \"required\": true\x7d
                ],
                \"responses\": \x7b
                    \"200\": \x7b\"description\": \"OK\", \"schema\": \x7b\"type\": \"string\"\x7d\x7d,
                    \"400\": \x7b\"description\": \"Bad Request\", \"schema\": \x7b\"$ref\": \"#/definitions/api.APIResponse\"\x7d\x7d,
                    \"404\": \x7b\"description\": \"Not Found\", \"schema\": \x7b\"$ref\": \"#/definitions/api.APIResponse\"\x7d\x7d
                \x7d
            \x7d,
            \"put\": \x7b
                \"security\": [\x7b\"ApiKeyAuth\": []\x7d],
                \"description\": \"Store the request body under key. mode is upsert (default), insert or update.\",
                \"consumes\": [\"application/octet-stream\"],
                \"produces\": [\"application/json\"],
                \"tags\": [\"kv\"],
                \"summary\": \"Set a key\",
                \"parameters\": [
                    \x7b\"type\": \"string\", \"description\": \"Key\", \"name\": \"key\", \"in\": \"path\", \"required\": true\x7d,
                    \x7b\"type\": \"string\", \"description\": \"Set mode\", \"name\": \"mode\", \"in\": \"query\"\x7d,
                    \x7b\"description\": \"Value\", \"name\": \"body\", \"in\": \"body\", \"required\": true, \"schema\": \x7b\"type\": \"array\", \"items\": \x7b\"type\": \"integer\"\x7d\x7d\x7d
                ],
                \"responses\": \x7b
                    \"200\": \x7b\"description\": \"OK\", \"schema\": \x7b\"$ref\": \"#/definitions/api.SetResponse\"\x7d\x7d,
                    \"400\": \x7b\"description\": \"Bad Request\", \"schema\": \x7b\"$ref\": \"#/definitions/api.APIResponse\"\x7d\x7d,
                    \"413\": \x7b\"description\": \"Request Entity Too Large\", \"schema\": \x7b\"$ref\": \"#/definitions/api.APIResponse\"\x7d\x7d,
                    \"500\": \x7b\"description\": \"Internal Server Error\", \"schema\": \x7b\"$ref\": \"#/definitions/api.APIResponse\"\x7d\x7d
                \x7d
            \x7d,
            \"delete\": \x7b
                \"security\": [\x7b\"ApiKeyAuth\": []\x7d],
                \"description\": \"Delete key, reporting whether it existed\",
                \"produces\": [\"application/json\"],
                \"tags\": [\"kv\"],
                \"summary\": \"Delete a key\",
                \"parameters\": [
                    \x7b\"type\": \"string\", \"description\": \"Key\", \"name\": \"key\", \"in\": \"path\", \"required\": true\x7d
                ],
                \"responses\": \x7b
                    \"200\": \x7b\"description\": \"OK\", \"schema\": \x7b\"$ref\": \"#/definitions/api.DeleteResponse\"\x7d\x7d,
                    \"400\": \x7b\"description\": \"Bad Request\", \"schema\": \x7b\"$ref\": \"#/definitions/api.APIResponse\"\x7d\x7d,
                    \"500\": \x7b\"description\": \"Internal Server Error\", \"schema\": \x7b\"$ref\": \"#/definitions/api.APIResponse\"\x7d\x7d
                \x7d
            \x7d
        \x7d,
        \"/stats\": \x7b
            \"get\": \x7b
                \"security\": [\x7b\"ApiKeyAuth\": []\x7d],
                \"description\": \"Get the live key count and log file size\",
                \"produces\": [\"application/json\"],
                \"tags\": [\"diagnostics\"],
                \"summary\": \"Get store statistics\",
                \"responses\": \x7b
                    \"200\": \x7b\"description\": \"OK\", \"schema\": \x7b\"$ref\": \"#/definitions/api.StatsResponse\"\x7d\x7d
                \x7d
            \x7d
        \x7d
    \x7d,
    \"definitions\": \x7b
        \"api.APIResponse\": \x7b
            \"type\": \"object\",
            \"properties\": \x7b
                \"data\": \x7b\x7d,
                \"error\": \x7b\"type\": \"string\"\x7d,
                \"success\": \x7b\"type\": \"boolean\"\x7d
            \x7d
        \x7d,
        \"api.DeleteResponse\": \x7b
            \"type\": \"object\",
            \"properties\": \x7b\"existed\": \x7b\"type\": \"boolean\"\x7d\x7d
        \x7d,
        \"api.KeysResponse\": \x7b
            \"type\": \"object\",
            \"properties\": \x7b
                \"count\": \x7b\"type\": \"integer\"\x7d,
                \"keys\": \x7b\"type\": \"array\", \"items\": \x7b\"type\": \"string\"\x7d\x7d
            \x7d
        \x7d,
        \"api.SetResponse\": \x7b
            \"type\": \"object\",
            \"properties\": \x7b\"changed\": \x7b\"type\": \"boolean\"\x7d\x7d
        \x7d,
        \"api.StatsResponse\": \x7b
            \"type\": \"object\",
            \"properties\": \x7b
                \"data_size\": \x7b\"type\": \"integer\"\x7d,
                \"keys\": \x7b\"type\": \"integer\"\x7d,
                \"path\": \x7b\"type\": \"string\"\x7d
            \x7d
        \x7d
    \x7d,
    \"securityDefinitions\": \x7b
        \"ApiKeyAuth\": \x7b
            \"type\": \"apiKey\",
            \"name\": \"X-API-Key\",
            \"in\": \"header\"
        \x7d
    \x7d
\x7d"

end LogStore.Http
