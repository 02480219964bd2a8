import AccessAudit.Text.Ascii

/-!
# The vocabulary of HTML

The tags that are known. A tag that is not is a component of the host, about which nothing can
be said.
-/

namespace AccessAudit
namespace Vocabulary

/-- The known tags, in small letters. -/
def tags : List String :=
  ["a", "abbr", "acronym", "address", "applet", "area", "article", "aside", "audio", "b", "base",
    "bdi", "bdo", "big", "blink", "blockquote", "body", "br", "button", "canvas", "caption",
    "center", "cite", "code", "col", "colgroup", "content", "data", "datalist", "dd", "del",
    "details", "dfn", "dialog", "dir", "div", "dl", "dt", "em", "embed", "fieldset", "figcaption",
    "figure", "font", "footer", "form", "frame", "frameset", "h1", "h2", "h3", "h4", "h5", "h6",
    "head", "header", "hgroup", "hr", "html", "i", "iframe", "img", "input", "ins", "kbd",
    "keygen", "label", "legend", "li", "link", "main", "map", "mark", "marquee", "menu",
    "menuitem", "meta", "meter", "nav", "noembed", "noscript", "object", "ol", "optgroup",
    "option", "output", "p", "param", "picture", "pre", "progress", "q", "rp", "rt", "rtc",
    "ruby", "s", "samp", "script", "section", "select", "small", "source", "spacer", "span",
    "strike", "strong", "style", "sub", "summary", "sup", "table", "tbody", "td", "textarea",
    "tfoot", "th", "thead", "time", "title", "tr", "track", "tt", "u", "ul", "var", "video",
    "wbr", "xmp"]

/-- The tag is known, ignoring case. -/
def isKnown (tag : String) : Bool :=
  tags.any fun known => Text.eqIgnoringCase known tag

end Vocabulary
end AccessAudit
