/-!
# Parameters

The parameters of a request: names with values, each name once.
-/

namespace GridQuery

/-- The parameters of a request, in the order in which they are listed. -/
structure Params where
  entries : List (String × String)

namespace Params

def empty : Params :=
  ⟨[]⟩

def get? (params : Params) (name : String) : Option String :=
  params.entries.lookup name

/-- Sets a parameter. An earlier value is replaced. -/
def set (params : Params) (name value : String) : Params :=
  if params.entries.any (·.1 == name) then
    ⟨params.entries.map fun entry => if entry.1 = name then (name, value) else entry⟩
  else
    ⟨params.entries ++ [(name, value)]⟩

/-- The parameters of a list of names and values. The last value of a name counts. -/
def ofList (entries : List (String × String)) : Params :=
  entries.foldl (fun params entry => params.set entry.1 entry.2) empty

end Params

end GridQuery
