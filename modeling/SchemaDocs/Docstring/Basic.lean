import SchemaDocs.ClassDoc.Basic
import SchemaDocs.Text.Basic
import SchemaDocs.Text.Blank
/-!
# Docstrings

What is written about a class, and how it is set.

## Literals

A body as a triple-quoted Python string, and the entry that sets it as the `__doc__`
of a class.  Backslashes and quotes are escaped, so that no body can end its literal.
-/

namespace SchemaDocs.Docstring

/-- How one character stands in a literal. -/
def escapeLiteral (c : Char) : List Char :=
  if c = '\\' then ['\\', '\\'] else if c = '"' then ['\\', '"'] else [c]

/-- Three quotes. -/
def tripleQuote : List Char := ['"', '"', '"']

/-- The characters of a literal.  A body of several lines has a line feed before the closing
quotes. -/
def literalChars (body : List Char) : List Char :=
  tripleQuote ++ body.flatMap escapeLiteral ++ (if body.contains '\n' then ['\n'] else [])
    ++ tripleQuote

/-- A body as a Python literal. -/
def literal (body : String) : String := Text.onChars literalChars body

/-- The entry of a class dictionary that holds a body.  The entry before it has no comma at its
end, so this one begins with it. -/
def classEntry (body : String) : String := ",'__doc__': " ++ literal body ++ "\n"

/-- The place in generated code where the entries of a class go. -/
def insertionPoint (className : String) : String := "class_scope:" ++ className

end SchemaDocs.Docstring

/-!
## Indentation

Removing what indentation the lines of a text share, and indenting them anew.
-/

namespace SchemaDocs.Docstring

/-- Whether a character indents. -/
def isIndent (c : Char) : Bool := c = ' ' || c = '\t'

/-- The number of blanks and tabs at the start of a line. -/
def indentWidth (line : List Char) : Nat := (line.takeWhile isIndent).length

/-- Lines without the empty ones at both ends. -/
def dropEmptyEdges (lines : List (List Char)) : List (List Char) :=
  ((lines.dropWhile List.isEmpty).reverse.dropWhile List.isEmpty).reverse

/-- The least indentation of the lines that are not empty. -/
def margin (lines : List (List Char)) : Nat :=
  (((lines.filter fun line => !line.isEmpty).map indentWidth).min?).getD 0

/-- The lines of a text, without blanks at their ends and without empty lines at the edges. -/
def contentLines (s : List Char) : List (List Char) :=
  dropEmptyEdges ((Text.lines s).map Text.trimEnd)

/-- The content lines less the margin that they share. -/
def dedentedLines (s : List Char) : List (List Char) :=
  let content := contentLines s
  let width := margin content
  content.map fun line => line.drop width

/-- The characters of a text without its blank edges and its common indentation. -/
def dedentChars (s : List Char) : List Char := Text.joinLines (dedentedLines s)

/-- A text without its blank edges and its common indentation. -/
def dedent (text : String) : String := Text.onChars dedentChars text

/-- Indents every line that is not empty. -/
def indentChars (width : Nat) (s : List Char) : List Char :=
  Text.joinLines
    ((Text.lines s).map fun line => if line.isEmpty then [] else List.replicate width ' ' ++ line)

end SchemaDocs.Docstring

/-!
## The body of a docstring

The summary of a class, and under a header its members, each with its comment
below its name.
-/

namespace SchemaDocs.Docstring

/-- The line above the members. -/
def attributesHeader : String := "Attributes:"

/-- The lines of one member. -/
def memberChars (member : Member) : List Char :=
  List.replicate 4 ' ' ++ member.name.toList ++ [':', '\n']
    ++ indentChars 8 (dedentChars member.comment.toList) ++ ['\n']

/-- The header and the members, or nothing if there are none. -/
def attributesChars : List Member → List Char
  | [] => []
  | members => attributesHeader.toList ++ '\n' :: members.flatMap memberChars

/-- The summary, and a blank line if both it and members are present. -/
def summaryChars (doc : ClassDoc) : List Char :=
  match dedentChars doc.summary.toList with
  | [] => []
  | summary => if doc.members.isEmpty then summary else summary ++ ['\n', '\n']

/-- The characters of a body. -/
def bodyChars (doc : ClassDoc) : List Char :=
  Text.trimEnd (summaryChars doc ++ attributesChars doc.members)

/-- The body of the docstring of a class.  It is empty if the class has no documentation. -/
def body (doc : ClassDoc) : String := String.ofList (bodyChars doc)

end SchemaDocs.Docstring
