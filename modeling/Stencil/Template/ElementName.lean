import Stencil.Text.Utf8

/-!
# Names of elements

Which tags the markup language knows, which of them take no content, and which
tags name a component instead: those that start with a capital letter or are
qualified with an import name. Names are compared in lower case. The list of
known names also holds attribute and event names, so a tag such as `onclick`
passes without a warning.
-/

namespace Stencil.ElementName

/-- The names of the markup language. -/
def knownNames : List String := [
  "a", "abbr", "accept", "accept-charset", "accesskey", "acronym", "action", "address", "align",
  "allowfullscreen", "allowpaymentrequest", "allowusermedia", "alt", "annotation",
  "annotation-xml", "applet", "area", "article", "as", "aside", "async", "audio", "autocomplete",
  "autofocus", "autoplay", "b", "base", "basefont", "bdi", "bdo", "bgsound", "big", "blink",
  "blockquote", "body", "br", "button", "canvas", "caption", "center", "challenge", "charset",
  "checked", "cite", "class", "code", "col", "colgroup", "color", "cols", "colspan", "command",
  "content", "contenteditable", "contextmenu", "controls", "coords", "crossorigin", "data",
  "datalist", "datetime", "dd", "default", "defer", "del", "desc", "details", "dfn", "dialog",
  "dir", "dirname", "disabled", "div", "dl", "download", "draggable", "dropzone", "dt", "em",
  "embed", "enctype", "face", "fieldset", "figcaption", "figure", "font", "footer", "for",
  "foreignObject", "foreignobject", "form", "formaction", "formenctype", "formmethod",
  "formnovalidate", "formtarget", "frame", "frameset", "h1", "h2", "h3", "h4", "h5", "h6",
  "head", "header", "headers", "height", "hgroup", "hidden", "high", "hr", "href", "hreflang",
  "html", "http-equiv", "i", "icon", "id", "iframe", "image", "img", "input", "inputmode", "ins",
  "integrity", "is", "isindex", "ismap", "itemid", "itemprop", "itemref", "itemscope",
  "itemtype", "kbd", "keygen", "keytype", "kind", "label", "lang", "legend", "li", "link",
  "list", "listing", "loop", "low", "main", "malignmark", "manifest", "map", "mark", "marquee",
  "math", "max", "maxlength", "media", "mediagroup", "menu", "menuitem", "meta", "meter",
  "method", "mglyph", "mi", "min", "minlength", "mn", "mo", "ms", "mtext", "multiple", "muted",
  "name", "nav", "nobr", "noembed", "noframes", "nomodule", "nonce", "noscript", "novalidate",
  "object", "ol", "onabort", "onafterprint", "onautocomplete", "onautocompleteerror",
  "onauxclick", "onbeforeprint", "onbeforeunload", "onblur", "oncancel", "oncanplay",
  "oncanplaythrough", "onchange", "onclick", "onclose", "oncontextmenu", "oncopy", "oncuechange",
  "oncut", "ondblclick", "ondrag", "ondragend", "ondragenter", "ondragexit", "ondragleave",
  "ondragover", "ondragstart", "ondrop", "ondurationchange", "onemptied", "onended", "onerror",
  "onfocus", "onhashchange", "oninput", "oninvalid", "onkeydown", "onkeypress", "onkeyup",
  "onlanguagechange", "onload", "onloadeddata", "onloadedmetadata", "onloadend", "onloadstart",
  "onmessage", "onmessageerror", "onmousedown", "onmouseenter", "onmouseleave", "onmousemove",
  "onmouseout", "onmouseover", "onmouseup", "onmousewheel", "onoffline", "ononline",
  "onpagehide", "onpageshow", "onpaste", "onpause", "onplay", "onplaying", "onpopstate",
  "onprogress", "onratechange", "onrejectionhandled", "onreset", "onresize", "onscroll",
  "onsecuritypolicyviolation", "onseeked", "onseeking", "onselect", "onshow", "onsort",
  "onstalled", "onstorage", "onsubmit", "onsuspend", "ontimeupdate", "ontoggle",
  "onunhandledrejection", "onunload", "onvolumechange", "onwaiting", "onwheel", "open",
  "optgroup", "optimum", "option", "output", "p", "param", "pattern", "picture", "ping",
  "placeholder", "plaintext", "playsinline", "poster", "pre", "preload", "progress", "prompt",
  "public", "q", "radiogroup", "rb", "readonly", "referrerpolicy", "rel", "required", "reversed",
  "rows", "rowspan", "rp", "rt", "rtc", "ruby", "s", "samp", "sandbox", "scope", "scoped",
  "script", "seamless", "section", "select", "selected", "shape", "size", "sizes", "slot",
  "small", "sortable", "sorted", "source", "spacer", "span", "spellcheck", "src", "srcdoc",
  "srclang", "srcset", "start", "step", "strike", "strong", "style", "sub", "summary", "sup",
  "svg", "system", "tabindex", "table", "target", "tbody", "td", "template", "textarea", "tfoot",
  "th", "thead", "time", "title", "tr", "track", "translate", "tt", "type", "typemustmatch", "u",
  "ul", "updateviacache", "usemap", "value", "var", "video", "wbr", "width", "workertype",
  "wrap", "xmp"]

/-- The elements that take no content and have no closing tag. -/
def voidNames : List String := [
  "area", "base", "br", "col", "embed", "hr", "img", "input", "keygen", "link", "meta", "param",
  "source", "track", "wbr"]

/-- Whether a name occurs in a list, in whatever case it is written. -/
def occursIn (names : List String) (tag : Bytes) : Bool :=
  names.any fun n => Bytes.ofString n = Bytes.lowerText tag

/-- Whether a tag takes no content. -/
def isVoid (tag : Bytes) : Bool := occursIn voidNames tag

/-- Whether a tag is known; a name with a hyphen is a custom element. -/
def isKnown (tag : Bytes) : Bool := List.contains tag (ch '-') || occursIn knownNames tag

/-- Whether a tag opens a subtree of another vocabulary, whose names are not
checked. -/
def isForeign (tag : Bytes) : Bool := occursIn ["svg", "math"] tag

/-- **Whether a tag names a component**: it is qualified with a dot or starts with
a capital letter. -/
def isComponent (tag : Bytes) : Bool :=
  List.contains tag (ch '.') || (tag.head?.map Bytes.isUpper).getD false

/-- The bytes a tag is made of behind its first. -/
def isTagByte (c : UInt8) : Bool :=
  Bytes.isIdentChar c || c = ch '-' || c = ch '.' || c = ch ':'

end Stencil.ElementName
