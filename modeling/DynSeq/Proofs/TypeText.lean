import DynSeq.Value

namespace DynSeq

namespace Ty

def layers : Nat → Ty → Ty
  | 0, t => t
  | n + 1, t => .array (layers n t)

def isWord : Ty → Bool
  | .any | .bool | .int | .float | .string | .error => true
  | _ => false

/-- How a type is written: a word with brackets behind it, a function, or a function in parentheses
with brackets behind them. -/
inductive Form : Ty → Prop
  | word (n : Nat) {t : Ty} (h : t.isWord = true) : Form (layers n t)
  | function (params results : List Ty) : Form (.function params results)
  | functions (n : Nat) (params results : List Ty) :
      Form (layers (n + 1) (.function params results))

theorem form : ∀ t : Ty, Form t
  | .array e => by
    cases form e with
    | word n h => exact .word (n + 1) h
    | function params results => exact .functions 0 params results
    | functions n params results => exact .functions (n + 1) params results
  | .function params results => .function params results
  | .any | .bool | .int | .float | .string | .error => .word 0 rfl

theorem sizeOf_le_layers (n : Nat) (t : Ty) : sizeOf t ≤ sizeOf (layers n t) := by
  induction n with
  | zero => exact Nat.le_refl _
  | succ n ih =>
    simp only [layers, array.sizeOf_spec]
    omega

def letters (t : Ty) : List Char :=
  t.text.toList

def joined (ts : List Ty) : List Char :=
  (", ".intercalate (texts ts)).toList

def arrowed (ts : List Ty) : List Char :=
  (arrow (texts ts)).toList

def brackets : Nat → List Char
  | 0 => []
  | n + 1 => '[' :: ']' :: brackets n

theorem joined_singleton (t : Ty) : joined [t] = t.letters := by
  simp [joined, texts, letters]

theorem joined_cons_cons (t u : Ty) (ts : List Ty) :
    joined (t :: u :: ts) = t.letters ++ ',' :: ' ' :: joined (u :: ts) := by
  simp [joined, texts, letters]

theorem arrowed_singleton (t : Ty) : arrowed [t] = ' ' :: '-' :: '>' :: ' ' :: t.letters := by
  simp [arrowed, texts, letters, arrow]

theorem arrowed_cons_cons (t u : Ty) (ts : List Ty) : arrowed (t :: u :: ts) =
    ' ' :: '-' :: '>' :: ' ' :: '(' :: (joined (t :: u :: ts) ++ [')']) := by
  simp [arrowed, texts, joined, arrow]

theorem letters_function (params results : List Ty) : letters (.function params results) =
    'f' :: 'n' :: '(' :: (joined params ++ ')' :: arrowed results) := by
  simp [letters, text, joined, arrowed]

theorem letters_array {e : Ty} (h : ∀ params results, e ≠ .function params results) :
    letters (.array e) = e.letters ++ ['[', ']'] := by
  simp [letters, text]

theorem brackets_append (n : Nat) : brackets n ++ ['[', ']'] = brackets (n + 1) := by
  induction n with
  | zero => rfl
  | succ n ih => rw [brackets, List.cons_append, List.cons_append, ih]; rfl

theorem letters_layers (n : Nat) (t : Ty) :
    letters (layers (n + 1) t) = letters (.array t) ++ brackets n := by
  induction n with
  | zero => simp [layers, brackets]
  | succ n ih =>
    rw [layers, letters_array (by simp [layers]), ih, List.append_assoc, brackets_append]

theorem letters_word {t : Ty} (h : t.isWord = true) (n : Nat) :
    letters (layers n t) = t.letters ++ brackets n := by
  cases n with
  | zero => simp [layers, brackets]
  | succ n =>
    have hf : ∀ params results, t ≠ .function params results := by
      rintro params results rfl
      cases h
    rw [letters_layers, letters_array hf, List.append_assoc]
    rfl

theorem letters_functions (n : Nat) (params results : List Ty) :
    letters (layers (n + 1) (.function params results)) =
      '(' :: (letters (.function params results) ++ ')' :: brackets (n + 1)) := by
  rw [letters_layers]
  simp [letters, text, brackets]

/-- What can stand behind a type: nothing, a comma or a closing parenthesis. -/
inductive Follows : List Char → Prop
  | nothing : Follows []
  | comma (rest : List Char) : Follows (',' :: rest)
  | closing (rest : List Char) : Follows (')' :: rest)

/-- The text of a type, with whatever follows it, starts with the text of no other type. -/
def Reads (t : Ty) : Prop :=
  ∀ u x y, Follows x → Follows y → t.letters ++ x = u.letters ++ y → t = u ∧ x = y

variable {x y : List Char}

theorem brackets_cancel (hx : Follows x) (hy : Follows y) {m n : Nat}
    (h : brackets m ++ x = brackets n ++ y) : m = n ∧ x = y := by
  induction m generalizing n with
  | zero =>
    cases n with
    | zero => exact ⟨rfl, h⟩
    | succ n => cases hx <;> simp [brackets] at h
  | succ m ih =>
    cases n with
    | zero => cases hy <;> simp [brackets] at h
    | succ n =>
      simp only [brackets, List.cons_append, List.cons.injEq, true_and] at h
      obtain ⟨rfl, rfl⟩ := ih h
      exact ⟨rfl, rfl⟩

theorem word_cancel {t u : Ty} (ht : t.isWord = true) (hu : u.isWord = true)
    (h : t.letters ++ x = u.letters ++ y) : t = u ∧ x = y := by
  cases t <;> cases ht <;> cases u <;> cases hu <;> simp_all [letters, text]

theorem word_append_ne {t : Ty} (ht : t.isWord = true) :
    t.letters ++ x ≠ 'f' :: 'n' :: y ∧ t.letters ++ x ≠ '(' :: y := by
  cases t <;> cases ht <;> simp [letters, text]

theorem letters_append_ne (t : Ty) : t.letters ++ x ≠ ')' :: y ∧ t.letters ++ x ≠ 'n' :: y := by
  cases form t with
  | @word n t h =>
    rw [letters_word h]
    cases t <;> cases h <;> simp [letters, text]
  | function => simp [letters_function]
  | functions => simp [letters_functions]

theorem layers_of_letters_append_eq {t : Ty} (h : t.letters ++ x = '(' :: y) :
    ∃ n params results, t = layers (n + 1) (.function params results) ∧
      y = letters (.function params results) ++ ')' :: (brackets (n + 1) ++ x) := by
  cases form t with
  | word n ht =>
    rw [letters_word ht, List.append_assoc] at h
    exact absurd h (word_append_ne ht).2
  | function => simp [letters_function] at h
  | functions n params results =>
    refine ⟨n, params, results, rfl, ?_⟩
    simp only [letters_functions, List.cons_append, List.append_assoc, List.cons.injEq,
      true_and] at h
    exact h.symm

def behind : List Ty → List Char → List Char
  | [], x => ')' :: x
  | t :: ts, x => ',' :: ' ' :: (joined (t :: ts) ++ ')' :: x)

theorem follows_behind (ts : List Ty) (x : List Char) : Follows (behind ts x) := by
  cases ts with
  | nil => exact .closing x
  | cons t ts => exact .comma _

theorem joined_cons_append (t : Ty) (ts : List Ty) (x : List Char) :
    joined (t :: ts) ++ ')' :: x = t.letters ++ behind ts x := by
  cases ts with
  | nil => rw [joined_singleton, behind]
  | cons u ts => rw [joined_cons_cons, List.append_assoc, behind]; rfl

theorem joined_cancel {ts : List Ty} (hts : ∀ t ∈ ts, Reads t) {us : List Ty}
    (h : joined ts ++ ')' :: x = joined us ++ ')' :: y) : ts = us ∧ x = y := by
  induction ts generalizing us with
  | nil =>
    cases us with
    | nil => simpa using h
    | cons u us =>
      rw [joined_cons_append] at h
      exact absurd h.symm (letters_append_ne u).1
  | cons t ts ih =>
    obtain ⟨ht, hts⟩ := List.forall_mem_cons.1 hts
    rw [joined_cons_append] at h
    cases us with
    | nil => exact absurd h (letters_append_ne t).1
    | cons u us =>
      rw [joined_cons_append] at h
      obtain ⟨rfl, hrest⟩ := ht u _ _ (follows_behind ts x) (follows_behind us y) h
      cases ts <;> cases us <;> simp only [behind, List.cons.injEq, true_and] at hrest
      · exact ⟨rfl, hrest⟩
      · simp at hrest
      · simp at hrest
      · obtain ⟨hlist, rfl⟩ := ih hts hrest
        exact ⟨congrArg _ hlist, rfl⟩

theorem closing_ne_comma {s t : Ty} (h : Reads s ∨ Reads t) :
    s.letters ++ ')' :: x ≠ t.letters ++ ',' :: y := by
  intro heq
  rcases h with hs | ht
  · obtain ⟨-, hrest⟩ := hs t _ _ (.closing x) (.comma y) heq
    cases hrest
  · obtain ⟨-, hrest⟩ := ht s _ _ (.comma y) (.closing x) heq.symm
    cases hrest

/-- One result is not taken for several: if it starts with a parenthesis, no comma comes before the
one that closes it. -/
theorem single_ne_several {s t u : Ty} {ts : List Ty}
    (h : ∀ r, sizeOf r ≤ sizeOf s → Reads r ∨ Reads t) :
    s.letters ++ x ≠ '(' :: (joined (t :: u :: ts) ++ y) := by
  intro heq
  obtain ⟨n, params, results, rfl, hinner⟩ := layers_of_letters_append_eq heq
  rw [joined_cons_cons, List.append_assoc] at hinner
  exact closing_ne_comma (h _ (sizeOf_le_layers (n + 1) (.function params results))) hinner.symm

theorem Follows.ne_space (h : Follows x) : x ≠ ' ' :: y := by
  cases h <;> simp

theorem arrowed_cancel {ts us : List Ty} (h : ∀ r, sizeOf r < sizeOf ts → Reads r)
    (hx : Follows x) (hy : Follows y) (heq : arrowed ts ++ x = arrowed us ++ y) :
    ts = us ∧ x = y := by
  have hts : ∀ t ∈ ts, Reads t := fun t ht ↦ h t (List.sizeOf_lt_of_mem ht)
  match ts, us with
  | [], [] => exact ⟨rfl, heq⟩
  | [], [u] =>
    rw [arrowed_singleton] at heq
    exact absurd heq hx.ne_space
  | [], u :: u' :: us =>
    rw [arrowed_cons_cons] at heq
    exact absurd heq hx.ne_space
  | [t], [] =>
    rw [arrowed_singleton] at heq
    exact absurd heq.symm hy.ne_space
  | t :: t' :: ts, [] =>
    rw [arrowed_cons_cons] at heq
    exact absurd heq.symm hy.ne_space
  | [t], [u] =>
    simp only [arrowed_singleton, List.cons_append, List.cons.injEq, true_and] at heq
    obtain ⟨rfl, rfl⟩ := hts t (.head _) u x y hx hy heq
    exact ⟨rfl, rfl⟩
  | [t], u :: u' :: us =>
    simp only [arrowed_singleton, arrowed_cons_cons, List.cons_append, List.append_assoc,
      List.cons.injEq, true_and] at heq
    refine absurd heq (single_ne_several fun r hsize ↦ .inl (h r ?_))
    simp only [List.cons.sizeOf_spec, List.nil.sizeOf_spec]
    omega
  | t :: t' :: ts, [u] =>
    simp only [arrowed_singleton, arrowed_cons_cons, List.cons_append, List.append_assoc,
      List.cons.injEq, true_and] at heq
    exact absurd heq.symm (single_ne_several fun _ _ ↦ .inr (hts t (.head _)))
  | t :: t' :: ts, u :: u' :: us =>
    simp only [arrowed_cons_cons, List.cons_append, List.append_assoc, List.nil_append,
      List.cons.injEq, true_and] at heq
    exact joined_cancel hts heq

theorem function_cancel {params results params' results' : List Ty}
    (h : ∀ r, sizeOf r < sizeOf (function params results) → Reads r) (hx : Follows x)
    (hy : Follows y) (heq : letters (.function params results) ++ x =
      letters (.function params' results') ++ y) :
    Ty.function params results = .function params' results' ∧ x = y := by
  simp only [letters_function, List.cons_append, List.append_assoc, List.cons.injEq,
    true_and] at heq
  have hparams : ∀ p ∈ params, Reads p := by
    intro p hp
    have hsize := List.sizeOf_lt_of_mem hp
    exact h p (by simp only [function.sizeOf_spec]; omega)
  have hresults : ∀ r, sizeOf r < sizeOf results → Reads r :=
    fun r hsize ↦ h r (by simp only [function.sizeOf_spec]; omega)
  obtain ⟨rfl, hrest⟩ := joined_cancel hparams heq
  obtain ⟨rfl, rfl⟩ := arrowed_cancel hresults hx hy hrest
  exact ⟨rfl, rfl⟩

theorem reads_of_smaller {t : Ty} (h : ∀ r, sizeOf r < sizeOf t → Reads r) : Reads t := by
  intro u x y hx hy heq
  cases form t with
  | word m ht =>
    rw [letters_word ht, List.append_assoc] at heq
    cases form u with
    | word n hu =>
      rw [letters_word hu, List.append_assoc] at heq
      obtain ⟨rfl, hrest⟩ := word_cancel ht hu heq
      obtain ⟨rfl, rfl⟩ := brackets_cancel hx hy hrest
      exact ⟨rfl, rfl⟩
    | function =>
      rw [letters_function] at heq
      exact absurd heq (word_append_ne ht).1
    | functions =>
      rw [letters_functions] at heq
      exact absurd heq (word_append_ne ht).2
  | function params results =>
    cases form u with
    | word n hu =>
      rw [letters_word hu, List.append_assoc, letters_function] at heq
      exact absurd heq.symm (word_append_ne hu).1
    | function => exact function_cancel h hx hy heq
    | functions => simp [letters_function, letters_functions] at heq
  | functions m params results =>
    cases form u with
    | word n hu =>
      rw [letters_word hu, List.append_assoc, letters_functions] at heq
      exact absurd heq.symm (word_append_ne hu).2
    | function => simp [letters_function, letters_functions] at heq
    | functions n params' results' =>
      simp only [letters_functions, List.cons_append, List.append_assoc, List.cons.injEq,
        true_and] at heq
      have hsize := sizeOf_le_layers m (.function params results)
      have hinner : Reads (.function params results) :=
        h _ (by simp only [layers, array.sizeOf_spec]; omega)
      obtain ⟨hf, hrest⟩ := hinner _ _ _ (.closing _) (.closing _) heq
      obtain ⟨hmn, rfl⟩ := brackets_cancel hx hy (List.tail_eq_of_cons_eq hrest)
      rw [hf, hmn]
      exact ⟨rfl, rfl⟩

-- By size and not by structure: the function in a single result `(fn())[]` lies deeper in the type
-- than the result does.
theorem reads (t : Ty) : Reads t :=
  reads_of_smaller fun r _ ↦ reads r
termination_by sizeOf t

theorem eq_of_text_eq {t u : Ty} (h : t.text = u.text) : t = u :=
  (reads t u [] [] .nothing .nothing (by simp [letters, h])).1

theorem text_ne_null (t : Ty) : t.text ≠ "null" := by
  intro h
  have hletters : t.letters ++ [] = 'n' :: ['u', 'l', 'l'] := by simp [letters, h]
  exact (letters_append_ne t).2 hletters

end Ty

theorem Signature.eq_of_text_eq {s t : Signature} (h : s.text = t.text) : s = t := by
  have hty := Ty.eq_of_text_eq h
  cases s
  cases t
  cases hty
  rfl

theorem Value.runtimeType?_eq_of_typeName_eq {v w : Value} (h : v.typeName = w.typeName) :
    v.runtimeType? = w.runtimeType? := by
  unfold typeName at h
  cases hv : v.runtimeType? <;> cases hw : w.runtimeType? <;> simp only [hv, hw] at h
  · rfl
  · exact absurd h.symm (Ty.text_ne_null _)
  · exact absurd h (Ty.text_ne_null _)
  · rw [Ty.eq_of_text_eq h]

/-- The text of a type can be read in one way only, and so can that of a signature. Since no type
is written `null`, what a value is called says which type it has, if any. -/
theorem text_unambiguous :
    (∀ t u : Ty, t.text = u.text ↔ t = u) ∧
    (∀ s t : Signature, s.text = t.text ↔ s = t) ∧
    (∀ t : Ty, t.text ≠ "null") ∧
    ∀ v w : Value, v.typeName = w.typeName ↔ v.runtimeType? = w.runtimeType? := by
  refine ⟨fun t u ↦ ⟨Ty.eq_of_text_eq, congrArg _⟩,
    fun s t ↦ ⟨Signature.eq_of_text_eq, congrArg _⟩, Ty.text_ne_null,
    fun v w ↦ ⟨Value.runtimeType?_eq_of_typeName_eq, fun h ↦ ?_⟩⟩
  rw [Value.typeName, Value.typeName, h]

end DynSeq
