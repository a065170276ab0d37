import SnippetRunner.Http.Message

/-!
# The manual

What the server says about itself: pages on which its routes can be tried and read about, and a
description of the routes for programs.
-/

namespace SnippetRunner.Http.Manual

/-- A page of the manual. -/
inductive Page where
  | explorer
  | signIn
  | overview
  | description
  deriving Repr, DecidableEq

/-- The address of a place that is reached over a secure line. -/
def secure (place : String) : String := "https:" ++ "//" ++ place

/-- A page on which the routes can be tried. -/
def explorerLines : List String :=
  [ "",
    "    <!DOCTYPE html>",
    "    <html>",
    "    <head>",
    "    <meta name=\"viewport\" content=\"width=device-width, initial-scale=1.0\">",
    "    <link type=\"text/css\" rel=\"stylesheet\" href=\""
      ++ secure "cdn.jsdelivr.net/npm/swagger-ui-dist@5/swagger-ui.css" ++ "\">",
    "    <link rel=\"shortcut icon\" href=\""
      ++ secure "fastapi.tiangolo.com/img/favicon.png" ++ "\">",
    "    <title>snipbox - Swagger UI</title>",
    "    </head>",
    "    <body>",
    "    <div id=\"swagger-ui\">",
    "    </div>",
    "    <script src=\""
      ++ secure "cdn.jsdelivr.net/npm/swagger-ui-dist@5/swagger-ui-bundle.js" ++ "\"></script>",
    "    <!-- `SwaggerUIBundle` is now available on the page -->",
    "    <script>",
    "    const ui = SwaggerUIBundle(\x7b",
    "        url: '/openapi.json',",
    "    \"dom_id\": \"#swagger-ui\",",
    "\"layout\": \"BaseLayout\",",
    "\"deepLinking\": true,",
    "\"showExtensions\": true,",
    "\"showCommonExtensions\": true,",
    "oauth2RedirectUrl: window.location.origin + '/docs/oauth2-redirect',",
    "    presets: [",
    "        SwaggerUIBundle.presets.apis,",
    "        SwaggerUIBundle.SwaggerUIStandalonePreset",
    "        ],",
    "    \x7d)",
    "    </script>",
    "    </body>",
    "    </html>",
    "    "]

/-- The page that a sign-in on the page of the routes comes back to. -/
def signInLines : List String :=
  [ "",
    "    <!doctype html>",
    "    <html lang=\"en-US\">",
    "    <head>",
    "        <title>Swagger UI: OAuth2 Redirect</title>",
    "    </head>",
    "    <body>",
    "    <script>",
    "        'use strict';",
    "        function run () \x7b",
    "            var oauth2 = window.opener.swaggerUIRedirectOauth2;",
    "            var sentState = oauth2.state;",
    "            var redirectUrl = oauth2.redirectUrl;",
    "            var isValid, qp, arr;",
    "",
    "            if (/code|token|error/.test(window.location.hash)) \x7b",
    "                qp = window.location.hash.substring(1).replace('?', '&');",
    "            \x7d else \x7b",
    "                qp = location.search.substring(1);",
    "            \x7d",
    "",
    "            arr = qp.split(\"&\");",
    "            arr.forEach(function (v,i,_arr) \x7b _arr[i] = '\"' + v.replace('=', "
      ++ "'\":\"') + '\"';\x7d);",
    "            qp = qp ? JSON.parse('\x7b' + arr.join() + '\x7d',",
    "                    function (key, value) \x7b",
    "                        return key === \"\" ? value : decodeURIComponent(value);",
    "                    \x7d",
    "            ) : \x7b\x7d;",
    "",
    "            isValid = qp.state === sentState;",
    "",
    "            if ((",
    "              oauth2.auth.schema.get(\"flow\") === \"accessCode\" ||",
    "              oauth2.auth.schema.get(\"flow\") === \"authorizationCode\" ||",
    "              oauth2.auth.schema.get(\"flow\") === \"authorization_code\"",
    "            ) && !oauth2.auth.code) \x7b",
    "                if (!isValid) \x7b",
    "                    oauth2.errCb(\x7b",
    "                        authId: oauth2.auth.name,",
    "                        source: \"auth\",",
    "                        level: \"warning\",",
    "                        message: \"Authorization may be unsafe, passed state was "
      ++ "changed in server. The passed state wasn't returned from auth server.\"",
    "                    \x7d);",
    "                \x7d",
    "",
    "                if (qp.code) \x7b",
    "                    delete oauth2.state;",
    "                    oauth2.auth.code = qp.code;",
    "                    oauth2.callback(\x7bauth: oauth2.auth, redirectUrl: redirectUrl\x7d);",
    "                \x7d else \x7b",
    "                    let oauthErrorMsg;",
    "                    if (qp.error) \x7b",
    "                        oauthErrorMsg = \"[\"+qp.error+\"]: \" +",
    "                            (qp.error_description ? qp.error_description+ \". \" : "
      ++ "\"no accessCode received from the server. \") +",
    "                            (qp.error_uri ? \"More info: \"+qp.error_uri : \"\");",
    "                    \x7d",
    "",
    "                    oauth2.errCb(\x7b",
    "                        authId: oauth2.auth.name,",
    "                        source: \"auth\",",
    "                        level: \"error\",",
    "                        message: oauthErrorMsg || \"[Authorization failed]: no "
      ++ "accessCode received from the server.\"",
    "                    \x7d);",
    "                \x7d",
    "            \x7d else \x7b",
    "                oauth2.callback(\x7bauth: oauth2.auth, token: qp, isValid: isValid, "
      ++ "redirectUrl: redirectUrl\x7d);",
    "            \x7d",
    "            window.close();",
    "        \x7d",
    "",
    "        if (document.readyState !== 'loading') \x7b",
    "            run();",
    "        \x7d else \x7b",
    "            document.addEventListener('DOMContentLoaded', function () \x7b",
    "                run();",
    "            \x7d);",
    "        \x7d",
    "    </script>",
    "    </body>",
    "    </html>",
    "        "]

/-- A page on which the routes can be read about. -/
def overviewLines : List String :=
  [ "",
    "    <!DOCTYPE html>",
    "    <html>",
    "    <head>",
    "    <title>snipbox - ReDoc</title>",
    "    <!-- needed for adaptive design -->",
    "    <meta charset=\"utf-8\"/>",
    "    <meta name=\"viewport\" content=\"width=device-width, initial-scale=1\">",
    "    ",
    "    <link href=\""
      ++ secure "fonts.googleapis.com/css?family=Montserrat:300,400,700|Roboto:300,400,700"
      ++ "\" rel=\"stylesheet\">",
    "    ",
    "    <link rel=\"shortcut icon\" href=\""
      ++ secure "fastapi.tiangolo.com/img/favicon.png" ++ "\">",
    "    <!--",
    "    ReDoc doesn't change outer page styles",
    "    -->",
    "    <style>",
    "      body \x7b",
    "        margin: 0;",
    "        padding: 0;",
    "      \x7d",
    "    </style>",
    "    </head>",
    "    <body>",
    "    <noscript>",
    "        ReDoc requires Javascript to function. Please enable it to browse the "
      ++ "documentation.",
    "    </noscript>",
    "    <redoc spec-url=\"/openapi.json\"></redoc>",
    "    <script src=\""
      ++ secure "cdn.jsdelivr.net/npm/redoc@2/bundles/redoc.standalone.js" ++ "\"> </script>",
    "    </body>",
    "    </html>",
    "    "]

/-! ## The description -/

/-- A value with a kind and a title. -/
def kind (name title : String) (others : List (String × Data) := []) : Data :=
  object (("type", .text name) :: ("title", .text title) :: others)

/-- A value that is described elsewhere. -/
def described (name : String) : Data :=
  object [("$ref", .text ("#/components/schemas/" ++ name))]

/-- A value without a title. -/
def plainKind (name : String) : Data := object [("type", .text name)]

/-- What is written in one format. -/
def written (format : String) (shape : Data) : Data :=
  object [(format, object [("schema", shape)])]

/-- What a route answers when all is well. -/
def success (format : String) (shape : Data) : String × Data :=
  ("200", object [("description", .text "Successful Response"),
    ("content", written format shape)])

/-- What a route answers to a body that is not as it should be. -/
def failure : String × Data :=
  ("422", object [("description", .text "Validation Error"),
    ("content", written "application/json" (described "HTTPValidationError"))])

/-- A route: its method, its title, its identifier and what else is said of it. -/
def route (method title identifier : String) (body responses : List (String × Data)) : Data :=
  object [(method, object ([("summary", .text title), ("operationId", .text identifier)] ++ body
    ++ [("responses", object responses)]))]

/-- The body that a route asks for. -/
def asked (shape : Data) (needed : Bool) : List (String × Data) :=
  [("requestBody", object (("content", written "application/json" shape) ::
    if needed then [("required", .bool true)] else []))]

/-- A text with a title and what it is if it is not given. -/
def standardText (title standard : String) : Data :=
  kind "string" title [("default", .text standard)]

/-- The paths with what is said of them. -/
def paths : Data :=
  let texts := object [("type", .text "string")]
  let anything := kind "object" "Response Echo Api Echo Post"
    [("additionalProperties", .bool true)]
  let list := kind "array" "Response Dialects Api Dialects Get"
    [("items", object [("type", .text "object"), ("additionalProperties", .bool true)])]
  let run := kind "object" "Response Run Api Run Post" [("additionalProperties", texts)]
  let short := object [("anyOf", .list [described "RunTempPayload", plainKind "null"]),
    ("title", .text "Payload")]
  let payload := object [("title", .text "Payload")]
  object [
    ("/api/run", route "post" "Run" "run_api_run_post" (asked (described "RunPayload") true)
      [success "application/json" run, failure]),
    ("/api/runTemp", route "post" "Run Temp" "run_temp_api_runTemp_post" (asked short false)
      [success "text/plain" texts, failure]),
    ("/api/dialects", route "get" "Dialects" "dialects_api_dialects_get" []
      [success "application/json" list]),
    ("/api/echo", route "post" "Echo" "echo_api_echo_post" (asked payload false)
      [success "application/json" anything, failure]),
    ("/healthz", route "get" "Healthz" "healthz_healthz_get" [] [success "text/plain" texts])]

/-- The bodies with their fields. -/
def bodies : List (String × Data) :=
  let seconds := object [("anyOf", .list [object [("type", .text "number"),
    ("exclusiveMinimum", .float 0.0)], plainKind "null"]), ("title", .text "Deadline Seconds")]
  let place := object [("anyOf", .list [plainKind "string", plainKind "integer"])]
  [("HTTPValidationError", kind "object" "HTTPValidationError"
      [("properties", object [("detail", kind "array" "Detail"
        [("items", described "ValidationError")])])]),
    ("RunPayload", kind "object" "RunPayload"
      [("description", .text "Body of ``POST /api/run``."),
        ("properties", object [("dialect", standardText "Dialect" "python"),
          ("code", standardText "Code" ""), ("deadline_seconds", seconds)])]),
    ("RunTempPayload", kind "object" "RunTempPayload"
      [("description", .text "Body of ``POST /api/runTemp``."),
        ("properties", object [("lang", standardText "Lang" "python"),
          ("code", standardText "Code" "")])]),
    ("ValidationError", kind "object" "ValidationError"
      [("required", .list [.text "loc", .text "msg", .text "type"]),
        ("properties", object [("loc", kind "array" "Location" [("items", place)]),
          ("msg", kind "string" "Message"), ("type", kind "string" "Error Type"),
          ("input", object [("title", .text "Input")]), ("ctx", kind "object" "Context")])])]

/-- The description of the routes. -/
def routesDescription : Data :=
  object [("openapi", .text "3.1.0"),
    ("info", object [("title", .text "snipbox"), ("version", .text "0.1.0")]), ("paths", paths),
    ("components", object [("schemas", object bodies)])]

/-- What a page holds. -/
def Page.content : Page → Content
  | .explorer => .page (String.intercalate "\n" explorerLines)
  | .signIn => .page (String.intercalate "\n" signInLines)
  | .overview => .page (String.intercalate "\n" overviewLines)
  | .description => .json routesDescription

end SnippetRunner.Http.Manual
