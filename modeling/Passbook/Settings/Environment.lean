/-!
# Environments

The variables of a process, in the order in which they were first set. Names are told apart by case.
Names and values are text here; variables that are not Unicode are left out.
-/
namespace Passbook

abbrev Environment := List (List Char × List Char)

namespace Environment

/-- Sets a variable, in its old place if it was set before. -/
def set (name value : List Char) : Environment → Environment
  | [] => [(name, value)]
  | (n, v) :: rest => if n = name then (n, value) :: rest else (n, v) :: set name value rest

/-- The environment that setting variables one after the other leads to. -/
def ofList (settings : List (List Char × List Char)) : Environment :=
  settings.foldl (fun env (name, value) => set name value env) []

end Environment
end Passbook
