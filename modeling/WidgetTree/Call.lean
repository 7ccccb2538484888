import WidgetTree.Value

namespace WidgetTree

/-- Positional and keyword arguments of one call. -/
structure Arguments where
  positional : List Value
  keyword : Fields Value

instance : Inhabited Arguments := ⟨⟨[], []⟩⟩

namespace Arguments

/-- No arguments. -/
def none : Arguments := ⟨[], []⟩

/-- The arguments that a declared value stands for: a mapping gives keyword arguments, a list gives
positional ones, and any other value is a single positional argument. -/
def shaped : Value → Arguments
  | .mapping entries => ⟨[], entries⟩
  | .list items => ⟨items, []⟩
  | single => ⟨[single], []⟩

/-- Adds a positional argument at the end. -/
def withPositional (args : Arguments) (value : Value) : Arguments :=
  { args with positional := args.positional ++ [value] }

/-- Gives a keyword argument a value. -/
def withKeyword (args : Arguments) (name : String) (value : Value) : Arguments :=
  { args with keyword := args.keyword.insert name value }

def isEmpty (args : Arguments) : Bool := args.positional.isEmpty && args.keyword.isEmpty

/-- The texts of the positional arguments and then of the keyword ones. -/
def display (args : Arguments) : String :=
  ", ".intercalate (Value.displayItems args.positional ++ Value.displayEntries "=" args.keyword)

end Arguments

/-- One call of a method. -/
structure Call where
  method : String
  args : Arguments

instance : Inhabited Call := ⟨⟨"", .none⟩⟩

namespace Call

/-- The call of a method with the arguments that a declared value stands for. -/
def shaped (method : String) (value : Value) : Call := ⟨method, .shaped value⟩

/-- One call per entry of a mapping, in order. -/
def ofMapping (entries : Fields Value) : List Call :=
  entries.map fun (method, value) => shaped method value

def display (call : Call) : String := call.method ++ "(" ++ call.args.display ++ ")"

end Call

end WidgetTree
