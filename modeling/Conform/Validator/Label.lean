import Conform.Validator.Basic

/-
  The labels of validators: what stands for one in logs and faults.
-/

namespace Conform

/-- The flags in brackets, if there are any. -/
def Flags.label (f : Flags) : String :=
  match f.nullable, f.optional with
  | true, true => "[nullable, optional]"
  | true, false => "[nullable]"
  | false, true => "[optional]"
  | false, false => ""

namespace Validator

def leafLabel (name : String) : String := "FunctionValidator(" ++ name ++ ")"

/-- The label of a node with a number of children. -/
def groupLabel (name : String) (count : Nat) : String := name ++ "(" ++ Text.decimal count ++ ")"

def label : Validator → String
  | .function name _ _ f => leafLabel name ++ f.label
  | .conjunction children _ _ f => groupLabel "All" children.length ++ f.label
  | .disjunction children _ f => groupLabel "AnyOf" children.length ++ f.label
  | .exclusion children _ f => groupLabel "NoneOf" children.length ++ f.label
  | .negation child _ f => "Not(" ++ child.label ++ ")" ++ f.label
  | .replacement _ _ f => "WithExpectation" ++ f.label
  | .throwing _ f => "ThrowInstead" ++ f.label
  | .conditional condition _ _ _ f => "When(" ++ condition.label ++ ")" ++ f.label
  | .resolved _ f => "Resolve" ++ f.label
  | .sized _ _ f => leafLabel "length" ++ f.label
  | .mapped _ _ f => leafLabel "transform" ++ f.label
  | .defaulted _ _ f => leafLabel "default_to" ++ f.label
  | .pivot _ _ _ f => leafLabel "pivot" ++ f.label
  | .coercion target _ _ _ f => leafLabel ("to_" ++ target) ++ f.label
  | .member key _ f => leafLabel ("get_field(" ++ key.display ++ ")") ++ f.label
  | .dispatch key _ f => leafLabel ("switch_by(" ++ key.display ++ ")") ++ f.label
  | .fields _ _ f => leafLabel "eskema" ++ f.label
  | .listPlaces _ f => leafLabel "eskema_list" ++ f.label
  | .listItems _ _ f => leafLabel "list_each" ++ f.label

end Validator
end Conform
