import FormGate.Document.Basic
import FormGate.Text.Blank

/-!
# The values of fields

A text area has its text for a value, a selection the value of its selected option, and every other
element that of its `value` attribute.
-/

namespace FormGate.Document

open Markup

/-- The value of an option: its `value` attribute, else its text without outer blanks. -/
def optionValue (l : Label) (text : String) (children : Forest) : String :=
  (l.get? "value").getD (Text.trim (text ++ children.innerText))

def isOption (n : Node) : Bool :=
  n.label.tag.localName == "option"

/-- The value of a selection by its options: that of the first selected one, else of the first. -/
def selectionValue (options : List Node) : String :=
  match (options.find? (·.label.has "selected")).or options.head? with
  | some n => optionValue n.label n.text n.children
  | none => ""

def nodeValue (n : Node) : String :=
  match n.label.tag.localName with
  | "textarea" => n.innerText
  | "select" => selectionValue (n.nodes.filter isOption)
  | _ => (n.label.get? "value").getD ""

def value (d : Document) (e : Element) : String :=
  ((d.node? e).map nodeValue).getD ""

/-- Puts text in place of all that an element holds. What it held is taken out. -/
def setText (d : Document) (e : Element) (text : String) : Document :=
  let held := (d.node? e).map (·.children) |>.getD .nil
  let d := d.mapForests (Forest.fill e text .nil)
  { d with loose := d.loose.append held }

/-- The label of an option when a value is chosen. -/
def chooseOption (value : String) (l : Label) (text : String) (children : Forest) : Label :=
  if l.tag.localName == "option" then
    if optionValue l text children == value then l.set "selected" "selected"
    else l.erase "selected"
  else l

/-- Gives an element a value. In a selection every option of that value is selected. -/
def setValue (d : Document) (e : Element) (value : String) : Document :=
  match d.node? e with
  | none => d
  | some n =>
    match n.label.tag.localName with
    | "textarea" => d.setText e value
    | "select" =>
      d.mapForests (Forest.fill e n.text (n.children.mapLabels (chooseOption value)))
    | _ => d.setAttribute e "value" value

def isChecked (d : Document) (e : Element) : Bool :=
  (d.label? e).any (·.has "checked")

/-- Whether an element with this label can be filled in. -/
def isFillable (l : Label) : Bool :=
  ["input", "textarea", "select"].contains l.tag.localName

/-- Gives every element of a name in a scope the value, and tells how many there are. -/
def fillNamed (d : Document) (name value : String) (scope : Option Element := none) :
    Nat × Document :=
  let targets := d.select scope fun l => l.get? "name" == some name && isFillable l
  (targets.length, targets.foldl (fun d e => d.setValue e value) d)

end FormGate.Document
