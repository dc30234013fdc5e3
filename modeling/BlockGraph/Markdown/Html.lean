import BlockGraph.Markdown.Chars
import BlockGraph.Markdown.Pattern

namespace BlockGraph.Markdown

/-- The names of the block-level elements whose tags open an HTML block of the sixth kind. -/
def blockTags : List String :=
  ["address", "article", "aside", "base", "basefont", "blockquote", "body", "caption",
   "center", "col", "colgroup", "dd", "details", "dialog", "dir", "div", "dl", "dt",
   "fieldset", "figcaption", "figure", "footer", "form", "frame", "frameset", "h1", "h2",
   "h3", "h4", "h5", "h6", "head", "header", "hr", "html", "iframe", "legend", "li", "link",
   "main", "menu", "menuitem", "meta", "nav", "noframes", "ol", "optgroup", "option", "p",
   "param", "search", "section", "summary", "table", "tbody", "td", "tfoot", "th", "thead",
   "title", "tr", "track", "ul"]

def rawTextTags : List String := ["script", "pre", "style", "textarea"]

def lowerAscii (c : Char) : Char := if 'A' ≤ c ∧ c ≤ 'Z' then Char.ofNat (c.toNat + 32) else c

def lowerText (s : List Char) : String := String.ofList (s.map lowerAscii)

/-- The lower-case ASCII letter a character matches without regard to case: its ASCII lower
case, and `s` for the long s `ſ`, `k` for the Kelvin sign. -/
def caselessChar (c : Char) : Char :=
  if c.toNat = 0x17F then 's' else if c.toNat = 0x212A then 'k' else lowerAscii c

def caselessText (s : List Char) : List Char := s.map caselessChar

inductive HtmlEnd where
  | closingTag
  | mark (m : List Char)
  | blankLine
  deriving Inhabited

def isTagChar (c : Char) : Bool := isAlnum c || c = '-'

def isPatternSpace (c : Char) : Bool := c = ' ' || c = '\t' || c = '\n' || c.toNat = 12 || c = '\r'

def isBareValueChar (c : Char) : Bool :=
  c.toNat > 32 && c ≠ '"' && c.toNat ≠ 39 && c ≠ '=' && c ≠ '<' && c ≠ '>' && c ≠ '`'

/-- An attribute of a tag: blanks, a name, and optionally `=` and a value, bare or quoted. -/
def attributePattern (blank : Char → Bool) : Pattern :=
  let value : Pattern :=
    .alt (.oneOrMore (.one isBareValueChar))
      (.alt (.chain [.one (·.toNat = 39), .many (.one (·.toNat ≠ 39)), .one (·.toNat = 39)])
        (.chain [.one (· = '"'), .many (.one (· ≠ '"')), .one (· = '"')]))
  .chain [.oneOrMore (.one blank),
    .one (fun c => isLetter c || c = '_' || c = ':'),
    .many (.one (fun c => isAlnum c || c = '_' || c = '.' || c = ':' || c = '-')),
    .optional (.chain [.many (.one blank), .one (· = '='), .many (.one blank), value])]

def tagLineEnd : Pattern :=
  .chain [.many (.one (· = ' ')), .alt (.word ">") (.word "/>"), .many (.one (· = ' ')),
    .optional (.alt (.word "\r\n") (.word "\n"))]

def tagLineRest : Pattern :=
  .seq (.many (attributePattern fun c => isPatternSpace c || c = '\t')) tagLineEnd

/-- Whether the text after a raw text element's name lets a block of the first kind start. -/
def rawTagFollows (after : List Char) : Bool :=
  match after with
  | [] | ['\n'] | ['\r', '\n'] => true
  | c :: rest => isPatternSpace c || c = '>' || (c = '/' && rest.head? = some '>')

def blockTagFollows (after : List Char) : Bool :=
  match after with
  | [] | ['\n'] | ['\r', '\n'] => true
  | c :: rest => c = ' ' || c = '>' || (c = '/' && rest.head? = some '>')

def rawTextTag? (rest : List Char) : Option String :=
  rawTextTags.find? fun t =>
    t.length ≤ rest.length && caselessText (rest.take t.length) = t.toList &&
      rawTagFollows (rest.drop t.length)

/-- The kind of HTML block a line starts, by how it ends; `afterParagraph` when the line would
interrupt a paragraph. -/
def htmlStart (line : List Char) (afterParagraph : Bool) : Option HtmlEnd :=
  let lead := (line.takeWhile (· = ' ')).length
  let t := line.drop lead
  if 3 < lead then none
  else match t with
    | '<' :: rest =>
      if (rawTextTag? rest).isSome then some .closingTag
      else if startsWith rest "!--".toList then some (.mark "-->".toList)
      else if startsWith rest "?".toList then some (.mark "?>".toList)
      else if (match rest with | '!' :: c :: _ => 'A' ≤ c && c ≤ 'Z' | _ => false) then
        some (.mark ">".toList)
      else if startsWith rest "![CDATA[".toList then some (.mark "]]>".toList)
      else
        let slash := rest.head? = some '/'
        let spaces := if slash then ((rest.drop 1).takeWhile (· = ' ')).length else 0
        let closing := slash && spaces = 0
        let body := if slash then rest.drop (1 + spaces) else rest
        let name := body.takeWhile isTagChar
        let after := body.drop name.length
        let named := match name with | c :: _ => isLetter c | [] => false
        let tag := lowerText name
        if named && tagLineRest.matchesAll after then
          let hasAttributes := !tagLineEnd.matchesAll after
          if blockTags.contains tag then some .blankLine
          else if tag ≠ "script" && tag ≠ "style" && tag ≠ "pre" && !afterParagraph &&
              !(closing && hasAttributes) then some .blankLine
          else none
        else if named && blockTagFollows after && blockTags.contains tag then some .blankLine
        else none
    | _ => none

def holdsClosingTag (line : List Char) : Bool :=
  let low := caselessText line
  rawTextTags.any fun t => containsText low ("</" ++ t ++ ">").toList

def HtmlEnd.endsAt (e : HtmlEnd) (line : List Char) : Bool :=
  match e with
  | .closingTag => holdsClosingTag line
  | .mark m => containsText line m
  | .blankLine => false

def openTagPattern : Pattern :=
  .chain [.one (· = '<'), .one isLetter, .many (.one isTagChar),
    .many (attributePattern fun c => c = ' ' || c = '\t' || c = '\n' || c = '\r'),
    .many (.one fun c => c = ' ' || c = '\t'), .optional (.word "/"), .one (· = '>')]

def closeTagPattern : Pattern :=
  .chain [.word "</", .one isLetter, .many (.one isTagChar),
    .many (.alt (.one fun c => c = ' ' || c = '\t') (.alt (.word "\r\n") (.word "\n"))),
    .one (· = '>')]

def markEnd (s : Array Char) (i : Nat) (m : List Char) : Option Nat :=
  (findText m (s.toList.drop i)).map (i + · + m.length)

def rawHtmlEnd (s : Array Char) (i : Nat) : Option Nat :=
  let rest := s.toList.drop i
  match rest with
  | '<' :: c :: more =>
    if isAlnum c then openTagPattern.firstEnd s i
    else if c = '/' && (match more with | d :: _ => isAlnum d | [] => false) then
      closeTagPattern.firstEnd s i
    else if startsWith rest "<!--".toList then markEnd s i "-->".toList
    else if startsWith rest "<?".toList then markEnd s i "?>".toList
    else if c = '!' && (match more with | d :: _ => 'A' ≤ d && d ≤ 'Z' | [] => false) then
      markEnd s i ">".toList
    else if startsWith rest "<![CDATA[".toList then markEnd s i "]]>".toList
    else none
  | _ => none

example : (htmlStart "<div>\n".toList false).isSome = true := by decide
example : (htmlStart "<span>\n".toList true).isSome = false := by decide

end BlockGraph.Markdown
