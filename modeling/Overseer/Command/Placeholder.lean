import Overseer.Text.NameMap

/-!
# Placeholders

A placeholder is a name between `$` with an opening brace and the next closing
brace.  Expansion is one pass from left to right: a placeholder whose name is
bound gives way to the value, any other stays as it is, and the text put in
place of a placeholder is not looked at again.
-/

namespace Overseer.Command

/-- Cut a text at its first closing brace into the part before and the part
after it. -/
def cutAtBrace : Bytes → Option (Bytes × Bytes)
  | [] => none
  | b :: rest =>
      if b = Byte.closeBrace then some ([], rest)
      else (cutAtBrace rest).map (fun cut => (b :: cut.1, cut.2))

/-- What follows a closing brace is shorter than the text. -/
theorem length_of_cutAtBrace {text name rest : Bytes}
    (hcut : cutAtBrace text = some (name, rest)) : rest.length < text.length := by
  induction text generalizing name rest with
  | nil => simp [cutAtBrace] at hcut
  | cons b tail ih =>
      unfold cutAtBrace at hcut
      split at hcut
      · simp only [Option.some.injEq, Prod.mk.injEq] at hcut
        simp [← hcut.2]
      · obtain ⟨cut, hcut, hpair⟩ := Option.map_eq_some_iff.mp hcut
        simp only [Prod.mk.injEq] at hpair
        have hlt := @ih cut.1 cut.2 hcut
        simp only [List.length_cons, ← hpair.2]
        omega

/-- What stands for a placeholder of the given name. -/
def placeholderValue (bindings : NameMap) (name : Bytes) : Bytes :=
  match bindings.find? name with
  | some value => value
  | none => Byte.dollar :: Byte.openBrace :: name ++ [Byte.closeBrace]

/-- Go through a text once and put what stands for them in place of its placeholders. -/
def substitute (bindings : NameMap) : Bytes → Bytes
  | [] => []
  | [b] => [b]
  | b :: c :: rest =>
      if b = Byte.dollar ∧ c = Byte.openBrace then
        match hcut : cutAtBrace rest with
        | none => b :: c :: rest
        | some (name, after) =>
            have := length_of_cutAtBrace hcut
            placeholderValue bindings name ++ substitute bindings after
      else b :: substitute bindings (c :: rest)
termination_by text => text.length
decreasing_by
  · simp only [List.length_cons]
    omega
  · simp

/-- Expand the placeholders of a text, which is not gone through if nothing is bound. -/
def expand (bindings : NameMap) (text : Bytes) : Bytes :=
  if bindings.isEmpty then text else substitute bindings text

/-- Without bindings every text stays as it is. -/
@[simp]
theorem expand_empty (text : Bytes) : expand .empty text = text :=
  rfl

end Overseer.Command
