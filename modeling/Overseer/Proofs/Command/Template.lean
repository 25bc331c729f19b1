import Overseer.Command.Placeholder
import Mathlib.Data.List.Infix

/-!
# What a text with placeholders is made of

A template is a text taken apart: stretches in which nothing opens a placeholder, the
placeholders between them and, at the end, a text in which no placeholder is complete.
A template can be filled in, which looks at none of the values that are put in.

Every text is the text of exactly one template, and expanding the text is filling in that
template.
-/

namespace Overseer.Command

/-- The bytes that open a placeholder. -/
def opening : Bytes :=
  [Byte.dollar, Byte.openBrace]

/-- No placeholder of the text is complete: nothing opens one, or what the first opening opens
is never closed. -/
def IsPlain (text : Bytes) : Prop :=
  ¬opening <:+: text ∨
    ∃ lead rest, text = lead ++ opening ++ rest ∧ ¬opening <:+: lead ∧ Byte.closeBrace ∉ rest

/-- A text taken apart into its placeholders and what stands around them. -/
inductive Template
  /-- A text without a complete placeholder. -/
  | plain (content : Bytes) (isPlain : IsPlain content)
  /-- What stands in front of the first placeholder, the name in it and what comes after it. -/
  | placeholder (lead name : Bytes) (later : Template) (unopened : ¬opening <:+: lead)
      (unclosed : Byte.closeBrace ∉ name)

namespace Template

/-- The template as it is written. -/
def text : Template → Bytes
  | plain content _ => content
  | placeholder lead name later _ _ => lead ++ opening ++ name ++ Byte.closeBrace :: later.text

/-- The names in its placeholders. -/
def names : Template → List Bytes
  | plain _ _ => []
  | placeholder _ name later _ _ => name :: later.names

/-- The template with values in place of the placeholders that are bound; the others stay. -/
def fill (bindings : NameMap) : Template → Bytes
  | plain content _ => content
  | placeholder lead name later _ _ =>
      lead ++ (bindings.find? name).getD (opening ++ name ++ [Byte.closeBrace]) ++
        later.fill bindings

/-- Where no name is bound, nothing changes. -/
theorem fill_of_unbound {bindings : NameMap} {t : Template}
    (unbound : ∀ name ∈ t.names, bindings.find? name = none) : t.fill bindings = t.text := by
  induction t with
  | plain => rfl
  | placeholder lead name later _ _ inductionHypothesis =>
      obtain ⟨first, others⟩ := List.forall_mem_cons.mp unbound
      rw [fill, text, first, inductionHypothesis others]
      simp

end Template

/-! ## Taking a text apart in one way -/

/-- A text in front of an opening that reaches past it would hold an opening itself. -/
theorem eq_nil_of_opening_append {lead rest after : Bytes} (unopened : ¬opening <:+: lead)
    (same : opening ++ rest = lead ++ (opening ++ after)) : lead = [] := by
  rcases lead with _ | ⟨b, _ | ⟨c, lead⟩⟩
  · rfl
  · -- The second byte of the one opening is the first byte of the other one.
    simp [opening, Byte.dollar, Byte.openBrace] at same
  · simp only [opening, List.cons_append, List.nil_append, List.cons.injEq] at same
    obtain ⟨rfl, rfl, _⟩ := same
    exact absurd (List.prefix_append opening lead).isInfix unopened

/-- The first opening of a text is in one place. -/
theorem first_opening_unique {lead lead' rest rest' : Bytes} (unopened : ¬opening <:+: lead)
    (unopened' : ¬opening <:+: lead') (same : lead ++ opening ++ rest = lead' ++ opening ++ rest') :
    lead = lead' ∧ rest = rest' := by
  rw [List.append_assoc, List.append_assoc] at same
  induction lead generalizing lead' with
  | nil =>
      obtain rfl := eq_nil_of_opening_append unopened' same
      exact ⟨rfl, List.append_cancel_left same⟩
  | cons b lead inductionHypothesis =>
      cases lead' with
      | nil =>
          have none := eq_nil_of_opening_append unopened same.symm
          contradiction
      | cons c lead' =>
          rw [List.infix_cons_iff, not_or] at unopened unopened'
          simp only [List.cons_append, List.cons.injEq] at same
          obtain ⟨rfl, same⟩ := same
          obtain ⟨rfl, behind⟩ := inductionHypothesis unopened.2 unopened'.2 same
          exact ⟨rfl, behind⟩

/-- A text that holds an opening has a first one. -/
theorem exists_first_opening {text : Bytes} (opened : opening <:+: text) :
    ∃ lead rest, text = lead ++ opening ++ rest ∧ ¬opening <:+: lead := by
  induction text with
  | nil => simp [opening] at opened
  | cons b text inductionHypothesis =>
      by_cases starts : opening <+: b :: text
      · obtain ⟨rest, same⟩ := starts
        exact ⟨[], rest, same.symm, by simp [opening]⟩
      · have later := (List.infix_cons_iff.mp opened).resolve_left starts
        obtain ⟨lead, rest, rfl, unopened⟩ := inductionHypothesis later
        have notYet : ¬opening <+: b :: lead := by
          intro sooner
          apply starts
          rw [List.append_assoc]
          exact sooner.trans (List.prefix_append (b :: lead) (opening ++ rest))
        have free : ¬opening <:+: b :: lead := by
          rw [List.infix_cons_iff]
          exact not_or.mpr ⟨notYet, unopened⟩
        exact ⟨b :: lead, rest, rfl, free⟩

/-! ## Cutting at the first closing brace -/

theorem cutAtBrace_append {name : Bytes} (unclosed : Byte.closeBrace ∉ name) (rest : Bytes) :
    cutAtBrace (name ++ Byte.closeBrace :: rest) = some (name, rest) := by
  induction name with
  | nil => simp [cutAtBrace]
  | cons b name inductionHypothesis =>
      rw [List.mem_cons, not_or] at unclosed
      rw [List.cons_append, cutAtBrace, if_neg (Ne.symm unclosed.1), inductionHypothesis unclosed.2]
      rfl

theorem cutAtBrace_of_notMem {text : Bytes} (unclosed : Byte.closeBrace ∉ text) :
    cutAtBrace text = none := by
  induction text with
  | nil => rfl
  | cons b text inductionHypothesis =>
      rw [List.mem_cons, not_or] at unclosed
      rw [cutAtBrace, if_neg (Ne.symm unclosed.1), inductionHypothesis unclosed.2]
      rfl

/-! ## Each text has one template -/

theorem IsPlain.ne_placeholder {text lead name rest : Bytes} (isPlain : IsPlain text)
    (unopened : ¬opening <:+: lead) :
    text ≠ lead ++ opening ++ name ++ Byte.closeBrace :: rest := by
  rintro rfl
  rw [List.append_assoc] at isPlain
  rcases isPlain with free | ⟨lead', rest', same, unopened', unclosed⟩
  · exact free ⟨lead, _, rfl⟩
  · obtain ⟨_, rfl⟩ := first_opening_unique unopened unopened' same
    simp at unclosed

namespace Template

/-- Templates that are written alike are the same one. -/
theorem text_injective {t u : Template} (same : t.text = u.text) : t = u := by
  induction t generalizing u with
  | plain content isPlain =>
      cases u with
      | plain content' _ =>
          obtain rfl : content = content' := same
          rfl
      | placeholder lead name later unopened _ =>
          exact absurd same (isPlain.ne_placeholder unopened)
  | placeholder lead name later unopened unclosed inductionHypothesis =>
      cases u with
      | plain content isPlain => exact absurd same.symm (isPlain.ne_placeholder unopened)
      | placeholder lead' name' later' unopened' unclosed' =>
          simp only [text] at same
          rw [List.append_assoc, List.append_assoc _ name'] at same
          obtain ⟨rfl, behind⟩ := first_opening_unique unopened unopened' same
          have cut := cutAtBrace_append unclosed later.text
          rw [behind, cutAtBrace_append unclosed'] at cut
          simp only [Option.some.injEq, Prod.mk.injEq] at cut
          obtain ⟨rfl, sameLater⟩ := cut
          rw [inductionHypothesis sameLater.symm]

/-- Every text can be taken apart. -/
theorem exists_text (whole : Bytes) : ∃ t : Template, t.text = whole := by
  induction sameLength : whole.length using Nat.strong_induction_on generalizing whole with
  | _ bound inductionHypothesis =>
      by_cases opened : opening <:+: whole
      · obtain ⟨lead, rest, rfl, unopened⟩ := exists_first_opening opened
        by_cases closed : Byte.closeBrace ∈ rest
        · obtain ⟨name, after, rfl, unclosed⟩ := List.eq_append_cons_of_mem closed
          have shorter : after.length < bound := by
            simp only [List.length_append, List.length_cons] at sameLength
            omega
          obtain ⟨later, rfl⟩ := inductionHypothesis after.length shorter after rfl
          exact ⟨placeholder lead name later unopened unclosed, List.append_assoc _ name _⟩
        · exact ⟨plain _ (.inr ⟨lead, rest, rfl, unopened, closed⟩), rfl⟩
      · exact ⟨plain whole (.inl opened), rfl⟩

end Template

/-! ## Going through a text -/

section

variable (bindings : NameMap)

/-- What stands in front of the first opening stays as it is. -/
theorem substitute_append_opening {lead : Bytes} (unopened : ¬opening <:+: lead) (rest : Bytes) :
    substitute bindings (lead ++ (opening ++ rest)) =
      lead ++ substitute bindings (opening ++ rest) := by
  induction lead with
  | nil => rfl
  | cons b lead inductionHypothesis =>
      rw [List.infix_cons_iff, not_or] at unopened
      have later := inductionHypothesis unopened.2
      cases lead with
      | nil =>
          have apart : ¬(b = Byte.dollar ∧ Byte.dollar = Byte.openBrace) :=
            fun both => absurd both.2 (by decide)
          simp only [opening, List.cons_append, List.nil_append]
          rw [substitute, if_neg apart]
      | cons c lead =>
          have apart : ¬(b = Byte.dollar ∧ c = Byte.openBrace) := by
            rintro ⟨rfl, rfl⟩
            exact unopened.1 (List.prefix_append opening lead)
          simp only [List.cons_append] at later ⊢
          rw [substitute, if_neg apart, later]

/-- Behind an opening the next closing brace decides. -/
theorem substitute_opening_append (rest : Bytes) :
    substitute bindings (opening ++ rest) =
      match cutAtBrace rest with
      | none => opening ++ rest
      | some (name, after) => placeholderValue bindings name ++ substitute bindings after := by
  simp only [opening, List.cons_append, List.nil_append]
  rw [substitute, if_pos ⟨rfl, rfl⟩]
  split
  · next uncut => simp only [uncut]
  · next cut => simp only [cut]

/-- A text without a complete placeholder stays as it is. -/
theorem substitute_of_isPlain {text : Bytes} (isPlain : IsPlain text) :
    substitute bindings text = text := by
  rcases isPlain with unopened | ⟨lead, rest, rfl, unopened, unclosed⟩
  · fun_induction substitute bindings text with
    | case1 => rfl
    | case2 b => rfl
    | case3 b c rest opens => rfl
    | case4 b c rest opens =>
        obtain ⟨rfl, rfl⟩ := opens
        exact absurd (List.prefix_append opening rest).isInfix unopened
    | case5 b c rest _ inductionHypothesis =>
        rw [inductionHypothesis fun inside => unopened (List.infix_cons inside)]
  · rw [List.append_assoc, substitute_append_opening bindings unopened, substitute_opening_append,
      cutAtBrace_of_notMem unclosed]

theorem placeholderValue_eq (name : Bytes) :
    placeholderValue bindings name =
      (bindings.find? name).getD (opening ++ name ++ [Byte.closeBrace]) := by
  unfold placeholderValue
  cases bindings.find? name <;> rfl

/-- Going through the text of a template fills it in. -/
theorem substitute_text (t : Template) : substitute bindings t.text = t.fill bindings := by
  induction t with
  | plain content isPlain => exact substitute_of_isPlain bindings isPlain
  | placeholder lead name later unopened unclosed inductionHypothesis =>
      have cut := cutAtBrace_append unclosed later.text
      rw [Template.text, List.append_assoc, List.append_assoc,
        substitute_append_opening bindings unopened, substitute_opening_append, cut]
      simp only [placeholderValue_eq, inductionHypothesis, Template.fill, List.append_assoc]

/-- Expanding the text of a template fills it in, whether or not the text is gone through. -/
theorem expand_text (t : Template) : expand bindings t.text = t.fill bindings := by
  unfold expand
  split
  · next empty =>
      have none : bindings = .empty := NameMap.ext (List.isEmpty_iff.mp empty)
      rw [none, Template.fill_of_unbound fun name _ => NameMap.find?_empty name]
  · exact substitute_text bindings t

end

/-- Expansion is one pass from left to right.

* A text in which no placeholder is complete stays as it is.
* In any other text what stands in front of the first opening stays, the name up to the next
  closing brace gives way to its value or stays as a placeholder, and what comes after the brace
  is expanded by itself.
* Which placeholders a text has is settled before anything is put in: the text is that of one
  template only, whatever is bound, and its expansion is the template filled in.  A value stands
  in the result as it is, whatever it contains.
* Where none of these names is bound, and so without any bindings, the text stays as it is. -/
theorem expands_in_one_pass (text : Bytes) :
    (∀ bindings, IsPlain text → expand bindings text = text) ∧
    (∀ bindings lead name rest, ¬opening <:+: lead → Byte.closeBrace ∉ name →
      text = lead ++ opening ++ name ++ Byte.closeBrace :: rest →
        expand bindings text =
          lead ++ (bindings.find? name).getD (opening ++ name ++ [Byte.closeBrace]) ++
            expand bindings rest) ∧
    (∃ t : Template, t.text = text ∧ (∀ other : Template, other.text = text → other = t) ∧
      (∀ bindings, expand bindings text = t.fill bindings) ∧
      ∀ bindings, (∀ name ∈ t.names, bindings.find? name = none) → expand bindings text = text) ∧
    expand .empty text = text := by
  refine ⟨?_, ?_, ?_, expand_empty text⟩
  · intro bindings isPlain
    exact expand_text bindings (.plain text isPlain)
  · rintro bindings lead name rest unopened unclosed rfl
    obtain ⟨later, rfl⟩ := Template.exists_text rest
    rw [expand_text bindings later]
    exact expand_text bindings (.placeholder lead name later unopened unclosed)
  · obtain ⟨t, rfl⟩ := Template.exists_text text
    refine ⟨t, rfl, fun other => Template.text_injective, (expand_text · t), ?_⟩
    intro bindings unbound
    rw [expand_text, Template.fill_of_unbound unbound]

/-- The value that is put in opens a placeholder, and the text behind it would complete it with
a name that is bound; it stays.  The dollar sign in front belongs to no opening, and the last
opening is never closed. -/
theorem expands_in_one_pass_halfOpening :
    expand (.ofList [(utf8 "a", utf8 "$\x7b"), (utf8 "b", utf8 "bound")])
      (utf8 "$$\x7ba\x7db\x7d $\x7bb") = utf8 "$$\x7bb\x7d $\x7bb" := by
  have passed := (expands_in_one_pass (utf8 "$$\x7ba\x7db\x7d $\x7bb")).2.1
    (.ofList [(utf8 "a", utf8 "$\x7b"), (utf8 "b", utf8 "bound")])
    (utf8 "$") (utf8 "a") (utf8 "b\x7d $\x7bb") (by decide) (by decide) (by decide)
  have isPlain : IsPlain (utf8 "b\x7d $\x7bb") :=
    .inr ⟨utf8 "b\x7d ", utf8 "b", by decide, by decide, by decide⟩
  rw [passed, (expands_in_one_pass _).1 _ isPlain]
  decide

end Overseer.Command
