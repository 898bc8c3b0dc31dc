import DynSeq.Value

namespace DynSeq

namespace Double

variable {a b c : Double}

theorem beq_iff : a.beq b = true ↔
    a.isNaN = false ∧ b.isNaN = false ∧ (a = b ∨ a.isZero = true ∧ b.isZero = true) := by
  cases a
  cases b
  simp [beq, and_assoc]

theorem beq_trans (hab : a.beq b = true) (hbc : b.beq c = true) : a.beq c = true := by
  obtain ⟨ha, -, hab⟩ := beq_iff.1 hab
  obtain ⟨-, hc, hbc⟩ := beq_iff.1 hbc
  refine beq_iff.2 ⟨ha, hc, ?_⟩
  rcases hab with rfl | ⟨hzero, hzero'⟩
  · exact hbc
  · rcases hbc with rfl | ⟨-, hzero''⟩
    · exact .inr ⟨hzero, hzero'⟩
    · exact .inr ⟨hzero, hzero''⟩

end Double

namespace Value

/-- In the value, or in an array at any depth of it, there is a float that is not a number. -/
inductive HasNaN : Value → Prop
  | float {x : Double} (h : x.isNaN = true) : HasNaN (.float x)
  | item {element : Ty} {items : List Value} {v : Value} (hv : v ∈ items) (h : HasNaN v) :
      HasNaN (.array element items)

theorem hasNaN_float_iff {x : Double} : HasNaN (.float x) ↔ x.isNaN = true := by
  constructor
  · intro h
    cases h with
    | float h => exact h
  · exact .float

theorem hasNaN_array_iff {element : Ty} {items : List Value} :
    HasNaN (.array element items) ↔ ∃ v ∈ items, v.HasNaN := by
  constructor
  · intro h
    cases h with
    | item hv h => exact ⟨_, hv, h⟩
  · intro h
    obtain ⟨v, hv, h⟩ := h
    exact .item hv h

section Kinds

variable {v : Value}

theorem beq_null_iff : beq .null v = true ↔ .null = v := by
  cases v <;> simp [beq]

theorem beq_bool_iff {b : Bool} : beq (.bool b) v = true ↔ .bool b = v := by
  cases v <;> simp [beq]

theorem beq_int_iff {n : Int64} : beq (.int n) v = true ↔ .int n = v := by
  cases v <;> simp [beq]

theorem beq_float_iff {x : Double} :
    beq (.float x) v = true ↔ ∃ y, .float y = v ∧ x.beq y = true := by
  cases v <;> simp [beq]

theorem beq_string_iff {s : String} : beq (.string s) v = true ↔ .string s = v := by
  cases v <;> simp [beq]

theorem beq_array_iff {element : Ty} {items : List Value} : beq (.array element items) v = true ↔
    ∃ others, .array element others = v ∧ beqs items others = true := by
  cases v <;> simp [beq, and_assoc]

theorem beq_function_iff {f : Callable} : beq (.function f) v = true ↔
    ∃ g, .function g = v ∧ f.implementation.identity = g.implementation.identity := by
  cases v <;> simp [beq]

theorem beq_error_iff {e : ErrorValue} :
    beq (.error e) v = true ↔ ∃ d, .error d = v ∧ e.identity = d.identity := by
  cases v <;> simp [beq, ErrorValue.same]

theorem beqs_nil_iff {vs : List Value} : beqs [] vs = true ↔ [] = vs := by
  cases vs <;> simp [beqs]

theorem beqs_cons_iff {u : Value} {us vs : List Value} : beqs (u :: us) vs = true ↔
    ∃ w ws, w :: ws = vs ∧ u.beq w = true ∧ beqs us ws = true := by
  cases vs <;> simp [beqs, and_assoc]

end Kinds

mutual
theorem beq_symm : ∀ (u : Value) {v : Value}, u.beq v = true → v.beq u = true
  | .null, _, h => by
    obtain rfl := beq_null_iff.1 h
    exact h
  | .bool _, _, h => by
    obtain rfl := beq_bool_iff.1 h
    exact h
  | .int _, _, h => by
    obtain rfl := beq_int_iff.1 h
    exact h
  | .float x, _, h => by
    obtain ⟨y, rfl, hy⟩ := beq_float_iff.1 h
    rw [Double.beq_comm] at hy
    exact beq_float_iff.2 ⟨x, rfl, hy⟩
  | .string _, _, h => by
    obtain rfl := beq_string_iff.1 h
    exact h
  | .array _ items, _, h => by
    obtain ⟨others, rfl, hothers⟩ := beq_array_iff.1 h
    exact beq_array_iff.2 ⟨items, rfl, beqs_symm items hothers⟩
  | .function f, _, h => by
    obtain ⟨g, rfl, hg⟩ := beq_function_iff.1 h
    exact beq_function_iff.2 ⟨f, rfl, hg.symm⟩
  | .error e, _, h => by
    obtain ⟨d, rfl, hd⟩ := beq_error_iff.1 h
    exact beq_error_iff.2 ⟨e, rfl, hd.symm⟩
theorem beqs_symm : ∀ (us : List Value) {vs : List Value}, beqs us vs = true → beqs vs us = true
  | [], _, h => by
    obtain rfl := beqs_nil_iff.1 h
    exact h
  | u :: us, _, h => by
    obtain ⟨w, ws, rfl, hw, hws⟩ := beqs_cons_iff.1 h
    exact beqs_cons_iff.2 ⟨u, us, rfl, beq_symm u hw, beqs_symm us hws⟩
end

mutual
theorem beq_trans : ∀ (u : Value) {v w : Value}, u.beq v = true → v.beq w = true →
    u.beq w = true
  | .null, _, _, h, h' => by
    obtain rfl := beq_null_iff.1 h
    exact h'
  | .bool _, _, _, h, h' => by
    obtain rfl := beq_bool_iff.1 h
    exact h'
  | .int _, _, _, h, h' => by
    obtain rfl := beq_int_iff.1 h
    exact h'
  | .float _, _, _, h, h' => by
    obtain ⟨y, rfl, hy⟩ := beq_float_iff.1 h
    obtain ⟨z, rfl, hz⟩ := beq_float_iff.1 h'
    exact beq_float_iff.2 ⟨z, rfl, Double.beq_trans hy hz⟩
  | .string _, _, _, h, h' => by
    obtain rfl := beq_string_iff.1 h
    exact h'
  | .array _ items, _, _, h, h' => by
    obtain ⟨seconds, rfl, hseconds⟩ := beq_array_iff.1 h
    obtain ⟨thirds, rfl, hthirds⟩ := beq_array_iff.1 h'
    exact beq_array_iff.2 ⟨thirds, rfl, beqs_trans items hseconds hthirds⟩
  | .function _, _, _, h, h' => by
    obtain ⟨g, rfl, hg⟩ := beq_function_iff.1 h
    obtain ⟨k, rfl, hk⟩ := beq_function_iff.1 h'
    exact beq_function_iff.2 ⟨k, rfl, hg.trans hk⟩
  | .error _, _, _, h, h' => by
    obtain ⟨d, rfl, hd⟩ := beq_error_iff.1 h
    obtain ⟨c, rfl, hc⟩ := beq_error_iff.1 h'
    exact beq_error_iff.2 ⟨c, rfl, hd.trans hc⟩
theorem beqs_trans : ∀ (us : List Value) {vs ws : List Value}, beqs us vs = true →
    beqs vs ws = true → beqs us ws = true
  | [], _, _, h, h' => by
    obtain rfl := beqs_nil_iff.1 h
    exact h'
  | u :: us, _, _, h, h' => by
    obtain ⟨v, vs, rfl, hv, hvs⟩ := beqs_cons_iff.1 h
    obtain ⟨w, ws, rfl, hw, hws⟩ := beqs_cons_iff.1 h'
    exact beqs_cons_iff.2 ⟨w, ws, rfl, beq_trans u hv hw, beqs_trans us hvs hws⟩
end

mutual
theorem beq_self_iff : ∀ v : Value, v.beq v = true ↔ ¬ v.HasNaN
  | .float x => by rw [beq, Double.beq_self_iff, hasNaN_float_iff, Bool.not_eq_true]
  | .array element items => by
    have harray : beq (.array element items) (.array element items) = beqs items items := by
      rw [beq, beq_self_eq_true, Bool.true_and]
    rw [harray, beqs_self_iff items, hasNaN_array_iff]
    constructor
    · rintro h ⟨v, hv, hnan⟩
      exact h v hv hnan
    · intro h v hv hnan
      exact h ⟨v, hv, hnan⟩
  | .null => iff_of_true rfl nofun
  | .bool _ => iff_of_true (beq_bool_iff.2 rfl) nofun
  | .int _ => iff_of_true (beq_int_iff.2 rfl) nofun
  | .string _ => iff_of_true (beq_string_iff.2 rfl) nofun
  | .function _ => iff_of_true (beq_function_iff.2 ⟨_, rfl, rfl⟩) nofun
  | .error _ => iff_of_true (beq_error_iff.2 ⟨_, rfl, rfl⟩) nofun
theorem beqs_self_iff : ∀ vs : List Value, beqs vs vs = true ↔ ∀ v ∈ vs, ¬ v.HasNaN
  | [] => iff_of_true rfl nofun
  | v :: vs => by
    rw [beqs, Bool.and_eq_true, beq_self_iff v, beqs_self_iff vs, List.forall_mem_cons]
end

theorem beqs_iff {us vs : List Value} : beqs us vs = true ↔ us.length = vs.length ∧
    ∀ (i : Nat) (u v : Value), us[i]? = some u → vs[i]? = some v → u.beq v = true := by
  induction us generalizing vs with
  | nil =>
    rw [beqs_nil_iff]
    constructor
    · rintro rfl
      exact ⟨rfl, nofun⟩
    · rintro ⟨hlength, -⟩
      exact (List.length_eq_zero_iff.1 hlength.symm).symm
  | cons u us ih =>
    rw [beqs_cons_iff]
    constructor
    · rintro ⟨w, ws, rfl, hw, hws⟩
      obtain ⟨hlength, hitems⟩ := ih.1 hws
      refine ⟨congrArg (· + 1) hlength, ?_⟩
      rintro (_ | i) a b ha hb
      · cases ha
        cases hb
        exact hw
      · exact hitems i a b ha hb
    · rintro ⟨hlength, hitems⟩
      cases vs with
      | nil => cases hlength
      | cons w ws =>
        have hrest : beqs us ws = true :=
          ih.2 ⟨Nat.succ.inj hlength, fun i ↦ hitems (i + 1)⟩
        exact ⟨w, ws, rfl, hitems 0 u w rfl rfl, hrest⟩

/-- What copying can make of a value. Nothing is asked of the copy of a function or of an error but
that it has kept the identity. -/
inductive CopyOf : Value → Value → Prop
  | content (v : Value) : CopyOf v v
  | function {f g : Callable} (h : f.implementation.identity = g.implementation.identity) :
      CopyOf (.function f) (.function g)
  | error {d e : ErrorValue} (h : d.identity = e.identity) : CopyOf (.error d) (.error e)

/-- A copy of a copy and so on, so many times over. -/
inductive Copied : Nat → Value → Value → Prop
  | zero (v : Value) : Copied 0 v v
  | succ {n : Nat} {u v w : Value} : Copied n u v → CopyOf v w → Copied (n + 1) u w

section Copies

variable {u v w : Value}

theorem beq_self_of_beq (h : u.beq v = true) : v.beq v = true :=
  beq_trans v (beq_symm u h) h

theorem CopyOf.beq (h : CopyOf v w) (hself : v.beq v = true) : v.beq w = true := by
  cases h with
  | content => exact hself
  | function h => exact beq_function_iff.2 ⟨_, rfl, h⟩
  | error h => exact beq_error_iff.2 ⟨_, rfl, h⟩

theorem Copied.beq {n : Nat} (h : Copied n u v) (hself : u.beq u = true) : u.beq v = true := by
  induction h with
  | zero => exact hself
  | succ h hcopy ih =>
    have hbefore := ih hself
    exact beq_trans _ hbefore (hcopy.beq (beq_self_of_beq hbefore))

end Copies

/-- Equality of values is symmetric and transitive, and fails to be reflexive exactly where NaN
occurs. Arrays are equal with their types and item by item, functions and errors by the identity
that all their copies share. -/
theorem equality_partial_equivalence :
    (∀ u v : Value, u.beq v = true → v.beq u = true) ∧
    (∀ u v w : Value, u.beq v = true → v.beq w = true → u.beq w = true) ∧
    (∀ v : Value, v.beq v = true ↔ ¬ v.HasNaN) ∧
    (∀ (s t : Ty) (us vs : List Value), beq (.array s us) (.array t vs) = true ↔
      s = t ∧ us.length = vs.length ∧
        ∀ (i : Nat) (u v : Value), us[i]? = some u → vs[i]? = some v → u.beq v = true) ∧
    (∀ (f : Callable) (v : Value), beq (.function f) v = true ↔
      ∃ g, .function g = v ∧ f.implementation.identity = g.implementation.identity) ∧
    (∀ (e : ErrorValue) (v : Value), beq (.error e) v = true ↔
      ∃ d, .error d = v ∧ e.identity = d.identity) ∧
    ∀ (n : Nat) (u v : Value), Copied n u v →
      (∃ f, u = .function f) ∨ (∃ e, u = .error e) → v.beq u = true := by
  refine ⟨fun u _ ↦ beq_symm u, fun u _ _ ↦ beq_trans u, beq_self_iff, ?_,
    fun _ _ ↦ beq_function_iff, fun _ _ ↦ beq_error_iff, ?_⟩
  · intro s t us vs
    rw [beq, Bool.and_eq_true, beq_iff_eq, beqs_iff]
  · intro n u v hcopied hu
    have hself : u.beq u = true := by
      rcases hu with ⟨f, rfl⟩ | ⟨e, rfl⟩
      · exact beq_function_iff.2 ⟨f, rfl, rfl⟩
      · exact beq_error_iff.2 ⟨e, rfl, rfl⟩
    exact beq_symm u (hcopied.beq hself)

-- Both zeros are one number, although they differ in their bits.
example : beq (.float (.ofParts false 0)) (.float (.ofParts true 0)) = true := by
  decide

end Value

end DynSeq
