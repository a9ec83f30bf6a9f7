import Stencil.Text.Bytes

/-!
# Text in HTML

A text that is shown on a page must not be taken for markup.
-/

namespace Stencil.Html

open Bytes

/-- How a byte is written on a page. -/
def escapeByte (c : UInt8) : Bytes :=
  if c = ch '&' then "&amp;"
  else if c = squote then "&#39;"
  else if c = ch '<' then "&lt;"
  else if c = ch '>' then "&gt;"
  else if c = dquote then "&#34;"
  else [c]

/-- **A text as it is written on a page.** -/
def escape (s : Bytes) : Bytes := s.flatMap escapeByte

end Stencil.Html
