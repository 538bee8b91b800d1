import TreeDump.Registration.Basic

/-!
# Registration in the registry

On Windows a directory is registered at the end of the PATH value of the user's environment key.
-/

namespace TreeDump

/-- A value of the registry, with the number of its type. -/
structure RegistryValue where
  value : Text
  type : Int
  deriving DecidableEq, Repr

namespace RegistryValue

/-- The type of a text in which variables are expanded. -/
def expandable : Int := 2

/-- The value with a directory at its end. -/
def withDirectory (current : RegistryValue) (directory : Text) : RegistryValue :=
  { current with
    value := if current.value = [] then directory else current.value ++ ';' :: directory }

end RegistryValue

/-- The environment key of a user: its PATH value, and why it cannot be opened, if it cannot. -/
structure EnvironmentKey where
  path : Option RegistryValue
  refusal : Option Text
  deriving DecidableEq, Repr

namespace EnvironmentKey

/-- Register a directory, unless the search path of the process or that of the user has it. -/
def register (key : EnvironmentKey) (searchPath directory : Text) :
    EnvironmentKey × Registration :=
  if SearchList.windows.holds searchPath directory then (key, .present)
  else
    match key.refusal with
    | some cause => (key, .failed cause)
    | none =>
      let current := key.path.getD ⟨[], RegistryValue.expandable⟩
      if SearchList.windows.holds current.value directory then (key, .present)
      else ({ key with path := some (current.withDirectory directory) }, .added)

end EnvironmentKey

end TreeDump
