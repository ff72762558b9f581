import InstallerKit.Decimal
import InstallerKit.Text.Quoted

/-!
# Data

A datum is a value of no fixed type: what a build file holds before it is
checked, what an event carries, and what a careless caller passes where a name
or a text belongs. Data are printed in two ways: by a *literal*, in which texts
are quoted, and for *display*, in which a text stands for itself.
-/

namespace InstallerKit

/-- A value of no fixed type. -/
inductive Datum
  | null
  | truth (value : Bool)
  | integer (value : Int)
  | real (value : Decimal)
  | text (value : String)
  | list (items : List Datum)
  | dict (entries : List (String × Datum))
  /-- A value of another kind (a date, a time, an infinite number), by the name
      of its kind and its literal. -/
  | special (kind literal : String)
  deriving Repr, Inhabited

namespace Datum

instance : Coe String Datum := ⟨text⟩

/-- The name of the kind of a datum. -/
def kind : Datum → String
  | null => "NoneType"
  | truth _ => "bool"
  | integer _ => "int"
  | real _ => "float"
  | text _ => "str"
  | list _ => "list"
  | dict _ => "dict"
  | special kind _ => kind

mutual

/-- The literal of a datum. -/
def literal : Datum → String
  | null => "None"
  | truth true => "True"
  | truth false => "False"
  | integer n => toString n
  | real x => x.render
  | text s => Text.quoted s
  | list items => "[" ++ ", ".intercalate (literals items) ++ "]"
  | dict entries => "\x7b" ++ ", ".intercalate (entryLiterals entries) ++ "\x7d"
  | special _ literal => literal

/-- The literals of several data. -/
def literals : List Datum → List String
  | [] => []
  | d :: rest => d.literal :: literals rest

/-- The literals of the entries of a table. -/
def entryLiterals : List (String × Datum) → List String
  | [] => []
  | (k, d) :: rest => (Text.quoted k ++ ": " ++ d.literal) :: entryLiterals rest

end

/-- A datum as it is shown in a message: a text as it is, anything else by its
    literal. -/
def display : Datum → String
  | text s => s
  | d => d.literal

/-- Whether a datum counts as nothing: the absent and the false one, zero, and
    whatever is empty. -/
def isNothing : Datum → Bool
  | null => true
  | truth b => !b
  | integer n => n = 0
  | real x => x.isInt 0
  | text s => s = ""
  | list items => items.isEmpty
  | dict entries => entries.isEmpty
  | special _ _ => false

/-- Whether a datum equals the number one; a true one does. -/
def isOne : Datum → Bool
  | truth b => b
  | integer n => n = 1
  | real x => x.isInt 1
  | _ => false

/-- The number of members of a datum that has members. -/
def length? : Datum → Option Nat
  | text s => some s.length
  | list items => some items.length
  | dict entries => some entries.length
  | _ => none

end Datum

end InstallerKit
