import PerfGate.Xml.Content
import PerfGate.Xml.Delimiter

/-!
# Reading a document

A `Reader` stands between two pieces of a document; `Reader.next` reads one piece or says why there
is none. Positions count the bytes that were read; a run of text is told apart from what follows it
only by the next `<`, so its position is one less than what was looked at. End tags are held against
the elements that are open. `Content.ofChars` is the whole document as a tree.
-/

namespace PerfGate.Xml

/-- The blanks inside markup. -/
def isMarkupBlank (c : Char) : Bool :=
  c == ' ' || c == '\t' || c == '\n' || c == '\r'

/-- The name at the front of a tag. -/
def tagName (content : List Char) : List Char :=
  content.takeWhile (!isMarkupBlank ·)

/-- The name of an end tag, without the blanks behind it; a name of blanks is kept. -/
def closeName (written : List Char) : List Char :=
  let trimmed := (written.reverse.dropWhile isMarkupBlank).reverse
  if trimmed.isEmpty then written else trimmed

/-- The characters begin with a word, in any case. -/
def beginsWith (word : String) (cs : List Char) : Bool :=
  (cs.take word.length).map Char.toLower == word.toList.map Char.toLower

/-- A place between two pieces of a document. -/
structure Reader where
  rest : List Char
  /-- The number of bytes before the place. -/
  offset : Nat
  /-- The elements that are open, the innermost first. -/
  opened : List (List Char)

/-- What a reader comes upon. -/
inductive Step where
  /-- A piece, with the position to report for it and the place behind it. -/
  | event (event : Event) (position : Nat) (reader : Reader)
  | stop (position : Nat) (reason : SyntaxError)

namespace Reader

/-- The step past a piece of markup that is one event, given the content between its brackets. The
reader stands behind the `<`. -/
def past (r : Reader) (content rest : List Char) (event : Event) (opened : List (List Char)) :
    Step :=
  let offset := r.offset + Text.utf8Length content + 1
  .event event offset ⟨rest, offset, opened⟩

/-- The content of a tag that ends at any `>`, or else with the document; what follows it; and the
width of the end. -/
def content (cs : List Char) : List Char × List Char × Nat :=
  match scan anyEnd () cs with
  | some (inside, rest) => (inside, rest, 1)
  | none => (cs, [], 0)

/-- Reads an end tag. -/
def closeTag (r : Reader) : Step :=
  let (inside, rest, width) := content r.rest
  let written := inside.drop 1
  let name := closeName written
  let offset := r.offset + Text.utf8Length inside + width
  match r.opened with
  | [] => .stop (r.offset + width) (.mismatchedClose [] written)
  | expected :: opened =>
    if name = expected then .event (.close name) offset ⟨rest, offset, opened⟩
    else .stop (r.offset + width) (.mismatchedClose expected name)

/-- Reads a declaration or processing instruction. -/
def instruction (r : Reader) : Step :=
  let (inside, rest, width) := content r.rest
  let offset := r.offset + Text.utf8Length inside + width
  if 2 < Text.utf8Length inside ∧ inside.getLast? = some '?' then
    .event (.aside .instruction) offset ⟨rest, offset, r.opened⟩
  else .stop (r.offset + width) (.unfinished "XmlDecl")

/-- Reads a section of literal text. -/
def cdata (r : Reader) : Step :=
  match scan cdataEnd 0 r.rest with
  | none => .stop r.offset (.unfinished "CData")
  | some (inside, rest) =>
    if beginsWith "![CDATA[" inside then
      r.past inside rest (.cdata (inside.drop 8).dropLast.dropLast) r.opened
    else .stop (r.offset + Text.utf8Length inside + 1) (.unfinished "CData")

/-- Reads a comment. -/
def comment (r : Reader) : Step :=
  match scan commentEnd (0, 0) r.rest with
  | none => .stop r.offset (.unfinished "Comment")
  | some (inside, rest) =>
    if beginsWith "!--" inside then r.past inside rest (.aside .comment) r.opened
    else .stop (r.offset + Text.utf8Length inside + 1) (.unfinished "Comment")

/-- Reads a document type declaration. -/
def doctype (r : Reader) : Step :=
  match scan doctypeEnd 0 r.rest with
  | none => .stop r.offset (.unfinished "DOCTYPE")
  | some (inside, rest) =>
    let position := r.offset + Text.utf8Length inside + 1
    if !beginsWith "!DOCTYPE" inside then .stop position (.unfinished "DOCTYPE")
    else if (inside.drop 8).all isMarkupBlank then .stop position .emptyDoctype
    else r.past inside rest (.aside .doctype) r.opened

/-- Reads what begins with `<!`, by the character after it. -/
def declaration (r : Reader) (c? : Option Char) : Step :=
  match c? with
  | none => .stop r.offset (.unfinished "Bang")
  | some c =>
    if c = '[' then r.cdata
    else if c = '-' then r.comment
    else if c = 'D' ∨ c = 'd' then r.doctype
    else .stop r.offset (.unknownDeclaration (Text.leadByte c))

/-- Reads a start tag or a self-closing tag. -/
def openTag (r : Reader) : Step :=
  match scan tagEnd none r.rest with
  | none => .stop r.offset (.unfinished "Element")
  | some (inside, rest) =>
    if inside.getLast? = some '/' then
      r.past inside rest (.empty (tagName inside.dropLast)) r.opened
    else r.past inside rest (.start (tagName inside)) (tagName inside :: r.opened)

/-- Reads markup; the reader stands behind the `<`. -/
def markup (r : Reader) : Step :=
  match r.rest with
  | [] => .stop r.offset .endOfDocument
  | c :: cs =>
    if c = '/' then r.closeTag
    else if c = '?' then r.instruction
    else if c = '!' then r.declaration cs.head?
    else r.openTag

/-- Reads a run of text. -/
def text (r : Reader) : Step :=
  let run := r.rest.takeWhile (· != '<')
  let rest := r.rest.dropWhile (· != '<')
  let offset := r.offset + Text.utf8Length run
  .event (.text run) (if rest.isEmpty then offset - 1 else offset) ⟨rest, offset, r.opened⟩

/-- Reads one piece of the document. -/
def next (r : Reader) : Step :=
  match r.rest with
  | [] => .stop r.offset .endOfDocument
  | c :: cs => if c = '<' then markup { r with rest := cs, offset := r.offset + 1 } else r.text

theorem length_content (cs : List Char) : (content cs).2.1.length ≤ cs.length := by
  unfold content
  split
  · exact Nat.le_of_lt (length_scan ‹_›)
  · exact Nat.zero_le _

theorem length_markup {r r' : Reader} {e : Event} {p : Nat} (h : r.markup = .event e p r') :
    r'.rest.length ≤ r.rest.length := by
  have ended := length_content r.rest
  unfold markup at h
  split at h
  · cases h
  · split at h
    · unfold closeTag at h
      grind
    · split at h
      · unfold instruction at h
        grind
      · split at h
        · unfold declaration cdata comment doctype past at h
          grind [→ length_scan]
        · unfold openTag past at h
          grind [→ length_scan]

/-- Every piece takes something of the document. -/
theorem length_next {r r' : Reader} {e : Event} {p : Nat} (h : r.next = .event e p r') :
    r'.rest.length < r.rest.length := by
  unfold next at h
  split at h
  · cases h
  · next c cs hr =>
    split at h
    · have shorter : r'.rest.length ≤ cs.length := length_markup h
      simp only [hr, List.length_cons]
      omega
    · next hc =>
      unfold text at h
      cases h
      have : (c != '<') = true := by simpa using hc
      simp only [hr, List.dropWhile_cons, this, if_true, List.length_cons]
      exact Nat.lt_succ_of_le (List.dropWhile_sublist _).length_le

/-- The pieces of the document from a place on, behind those that were read before it, the latest
first; with the position and the reason of the stop. -/
def pieces (r : Reader) (before : List (Event × Nat)) : List (Event × Nat) × Nat × SyntaxError :=
  match _h : r.next with
  | .event event position r' => r'.pieces ((event, position) :: before)
  | .stop position reason => (before.reverse, position, reason)
termination_by r.rest.length
decreasing_by exact length_next _h

end Reader

/-- A document without the mark that may stand in front of it. -/
def withoutMark : List Char → List Char
  | [] => []
  | c :: cs => if c = '\uFEFF' then cs else c :: cs

/-- The document as a tree. -/
def Content.ofChars (document : List Char) : Content :=
  let (pieces, position, reason) := Reader.pieces ⟨withoutMark document, 0, []⟩ []
  ofEvents pieces position reason

end PerfGate.Xml
