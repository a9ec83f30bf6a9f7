import Stencil.Compile.Batch
import Stencil.Text.Html

/-!
# The pages of the playground

The overlay shows what became of a compilation; the index is the page on which components
are typed and compiled.
-/

namespace Stencil.Page

open Bytes

/-- Lines as one text, each with its end. -/
def ofLines (ls : List String) : Bytes :=
  ls.flatMap fun l => Bytes.ofString l ++ [newline]

/-- The style of the overlay. -/
def overlayStyle : Bytes :=
  ofLines ["<style>",
    ".templc-overlay\x7bfont-family:ui-monospace,monospace;font-size:13px;background:#1e1e1e;"
      ++ "color:#ddd;padding:16px;border-radius:6px\x7d",
    ".templc-overlay h2\x7bmargin:0 0 12px;font-size:15px\x7d",
    ".templc-overlay li\x7blist-style:none;padding:4px 0;border-bottom:1px solid #333\x7d",
    ".templc-overlay .sev-error\x7bcolor:#f48771\x7d",
    ".templc-overlay .sev-warning\x7bcolor:#cca700\x7d",
    ".templc-overlay .ok\x7bcolor:#89d185\x7d",
    ".templc-overlay .loc\x7bcolor:#9cdcfe\x7d"] ++ "</style>"

/-- The line of the overlay for a diagnostic. -/
def diagnosticItem (d : Diagnostic) : Bytes :=
  "<li class=\"sev-" ++ Html.escape d.severity.name
    ++ "\"><span class=\"loc\">" ++ Html.escape d.place ++ "</span> "
    ++ Html.escape d.origin.name ++ " " ++ Html.escape d.code ++ ": "
    ++ Html.escape d.message ++ "</li>"

/-- What the overlay says first. -/
def overlaySummary (r : Compile.Result) : Bytes :=
  let warnings := Bytes.ofNat (Diagnostic.count r.diagnostics .warning) ++ " warning(s)</h2>"
  if r.failed then
    "<h2 class=\"sev-error\">" ++ Bytes.ofNat (Diagnostic.count r.diagnostics .error)
      ++ " error(s), " ++ warnings
  else "<h2 class=\"ok\">Compiled, " ++ Bytes.ofNat r.size ++ " bytes, " ++ warnings

/-- **What became of a compilation**, as part of a page. -/
def overlay (r : Compile.Result) : Bytes :=
  overlayStyle ++ "<div class=\"templc-overlay\">" ++ overlaySummary r ++ "<ul>"
    ++ r.diagnostics.flatMap diagnosticItem ++ "</ul></div>"

/-- The index up to the names of the modules. -/
def indexHead : Bytes :=
  ofLines ["<!DOCTYPE html>", "<html>", "<head>", "<meta charset=\"utf-8\">",
    "<title>templc playground</title>", "<style>",
    "body\x7bfont-family:system-ui,sans-serif;margin:0;padding:20px;background:#f5f5f5\x7d",
    "textarea\x7bwidth:100%;height:240px;font-family:ui-monospace,monospace\x7d",
    "#phase\x7bcolor:#555;margin:8px 0\x7d", "</style>", "</head>", "<body>",
    "<h1>templc playground</h1>"] ++ "<p>Compiling against: "

/-- The index from the names of the modules on. -/
def indexTail : Bytes :=
  ofLines ["</p>",
    "<textarea id=\"src\">@param Name string",
    "&lt;p&gt;Hello @Name&lt;/p&gt;</textarea>",
    "<button id=\"run\">Compile</button>",
    "<div id=\"phase\"></div>",
    "<div id=\"out\"></div>",
    "<script>",
    "document.getElementById(\"run\").onclick = function () \x7b",
    "  var files = [\x7bpath: \"/Page.tmpl\", text: document.getElementById(\"src\").value\x7d];",
    "  var ws = new WebSocket((location.protocol === \"https:\" ? \"wss://\" : \"ws://\")"
      ++ " + location.host + \"/ws\");",
    "  ws.onopen = function () \x7b ws.send(JSON.stringify(\x7bfiles: files\x7d)); \x7d;",
    "  ws.onmessage = function (ev) \x7b",
    "    var f = JSON.parse(ev.data);",
    "    if (f.type === \"phase\") \x7b document.getElementById(\"phase\").textContent = f.phase;"
      ++ " return; \x7d",
    "    fetch(\"/overlay\", \x7bmethod: \"POST\","
      ++ " headers: \x7b\"Content-Type\": \"application/json\"\x7d,"
      ++ " body: JSON.stringify(\x7bfiles: files\x7d)\x7d)",
    "      .then(function (r) \x7b return r.text(); \x7d)",
    "      .then(function (html) \x7b document.getElementById(\"out\").innerHTML = html; \x7d);",
    "  \x7d;",
    "\x7d;",
    "</script>",
    "</body>",
    "</html>"]

/-- **The page on which components are compiled**, with the modules that they can use. -/
def index (modules : List Bytes) : Bytes :=
  indexHead ++ Html.escape ("[" ++ join " " modules ++ "]") ++ indexTail

end Stencil.Page
