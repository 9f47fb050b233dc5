/-!
# Forms

A `Form` is the structure of a value as a reader sees it: words, and groups of forms between an opening
and a closing text.  It is written out in one of two ways.

* `Form.compact`: all on one line, items separated by commas;
* `Form.pretty`: one item per line, each with a comma after it and indented by four spaces; an empty
  group stays on one line.

A group may be elided, which says that there is more than is shown; two dots stand for the rest.
-/

namespace SortedMultiset

/-- The structure of a value as it is written out. -/
inductive Form where
  /-- A word. -/
  | atom (text : String)
  /-- A named part of a group. -/
  | labelled (name : String) (value : Form)
  /-- Forms between two texts; `pad` stands inside them when all is on one line. -/
  | group (opening pad closing : String) (items : List Form) (elided : Bool)

namespace Form

/-- Items in square brackets. -/
def list (items : List Form) : Form := group "[" "" "]" items false

/-- Items in parentheses after a name; without a name, a tuple. -/
def call (name : String) (items : List Form) : Form := group (name ++ "(") "" ")" items false

/-- Named fields in braces after a name. -/
def record (name : String) (fields : List (String × Form)) (elided : Bool) : Form :=
  group (name ++ " \x7b") " " "\x7d" (fields.map fun f => labelled f.1 f.2) elided

/-- A record of which nothing is shown. -/
def sealed (name : String) : Form := atom (name ++ " \x7b .. \x7d")

/-! ### On one line -/

mutual

def compact : Form → String
  | atom text => text
  | labelled name value => name ++ ": " ++ compact value
  | group opening pad closing items elided =>
    let parts := compactAll items ++ (if elided then [".."] else [])
    if parts.isEmpty then opening ++ closing
    else opening ++ pad ++ ", ".intercalate parts ++ pad ++ closing

def compactAll : List Form → List String
  | [] => []
  | item :: items => compact item :: compactAll items

end

/-! ### On many lines -/

/-- The lines of a form with a text put before the first. -/
def precede (text : String) : List String → List String
  | [] => [text]
  | line :: lines => (text ++ line) :: lines

/-- Lines with a comma after the last. -/
def endWithComma : List String → List String
  | [] => []
  | [line] => [line ++ ","]
  | line :: lines => line :: endWithComma lines

mutual

def lines : Form → List String
  | atom text => [text]
  | labelled name value => precede (name ++ ": ") (lines value)
  | group opening _ closing items elided =>
    let inner := linesOfItems items ++ (if elided then [".."] else [])
    if inner.isEmpty then [opening ++ closing]
    else opening :: (inner.map ("    " ++ ·) ++ [closing])

def linesOfItems : List Form → List String
  | [] => []
  | item :: items => endWithComma (lines item) ++ linesOfItems items

end

def pretty (f : Form) : String := "\n".intercalate f.lines

end Form

end SortedMultiset
