import DynSeq.Proofs.Agreement

namespace DynSeq

def Exchange.primary? (e : Exchange) : Option Value :=
  match e.outcome with
  | .returned results => results.head?
  | .panicked _ => none

namespace Callable

/-- A transcript of calls for the first of some items, each of which gave a result. -/
inductive Transcribes (f : Callable) (items : List Value) : List Exchange → List Value → Prop
  | nil : Transcribes f items [] []
  | snoc {exchanges : List Exchange} {results : List Value} {item result : Value}
      {outcome : Outcome (List Value)} :
      Transcribes f items exchanges results → items[results.length]? = some item →
      f.Reads results.length outcome (.ok result) →
      Transcribes f items (exchanges ++ [⟨f, f.given item, outcome⟩]) (results ++ [result])

section Transcribes

variable {f : Callable} {items results : List Value} {exchanges : List Exchange}

theorem Transcribes.length_eq (h : f.Transcribes items exchanges results) :
    exchanges.length = results.length := by
  induction h with
  | nil => rfl
  | snoc h hi hr ih => rw [List.length_append, List.length_append, ih]; rfl

theorem Transcribes.length_le (h : f.Transcribes items exchanges results) :
    results.length ≤ items.length := by
  cases h with
  | nil => exact Nat.zero_le _
  | snoc h hi hr =>
    rw [List.length_append, List.length_singleton]
    exact (List.getElem?_eq_some_iff.1 hi).1

theorem Transcribes.map_primary? (h : f.Transcribes items exchanges results) :
    exchanges.map Exchange.primary? = results.map some := by
  induction h with
  | nil => rfl
  | snoc h hi hr ih =>
    obtain ⟨rest, rfl⟩ := hr.exists_returned
    rw [List.map_append, List.map_append, ih]
    rfl

theorem Transcribes.exists_exchange (h : f.Transcribes items exchanges results) {i : Nat}
    {result : Value} (hi : results[i]? = some result) :
    ∃ e, exchanges[i]? = some e ∧ e.primary? = some result := by
  have hmap : (exchanges.map Exchange.primary?)[i]? = some (some result) := by
    rw [h.map_primary?, List.getElem?_map, hi, Option.map_some]
  rw [List.getElem?_map] at hmap
  exact Option.map_eq_some_iff.1 hmap

theorem Transcribes.map_call (h : f.Transcribes items exchanges results) :
    exchanges.map Exchange.call = (items.take results.length).map fun item ↦ (f, f.given item) := by
  induction h with
  | nil => rfl
  | snoc h hi hr ih =>
    rw [List.length_append, List.length_singleton, List.take_add_one, hi, List.map_append,
      List.map_append, ih]
    rfl

theorem Transcribes.exists_reads (h : f.Transcribes items exchanges results) {i : Nat}
    {e : Exchange} (he : exchanges[i]? = some e) :
    ∃ result, f.Reads i e.outcome (.ok result) := by
  induction h with
  | nil => cases he
  | @snoc exchanges results item result outcome h hi hr ih =>
    rw [List.getElem?_append] at he
    split at he
    · exact ih he
    · rename_i hle
      obtain ⟨hlt, rfl⟩ := List.getElem?_eq_some_iff.1 he
      have hlast : i = results.length := by
        rw [List.length_singleton] at hlt
        rw [← h.length_eq]
        omega
      subst hlast
      simp only [List.getElem_singleton]
      exact ⟨result, hr⟩

end Transcribes

/-- What the transcript of a run tells about its end. Either each item was called for and no result
stopped the run, or the last result did; or an item was not called for, or the last call failed. -/
inductive Tells (f : Callable) (items : List Value) (stop : Value → Bool) :
    Except Failure (List Value) → List Exchange → Prop
  | exhausted {exchanges : List Exchange} {results : List Value}
      (h : f.Transcribes items exchanges results) (hall : results.length = items.length)
      (hgoes : ∀ r ∈ results, stop r = false) : Tells f items stop (.ok results) exchanges
  | stopped {exchanges : List Exchange} {results : List Value} {result : Value}
      (h : f.Transcribes items exchanges (results ++ [result]))
      (hgoes : ∀ r ∈ results, stop r = false) (hstop : stop result = true) :
      Tells f items stop (.ok (results ++ [result])) exchanges
  | missed {exchanges : List Exchange} {results : List Value} {failure : Failure}
      (h : f.Transcribes items exchanges results) (hlt : results.length < items.length) :
      Tells f items stop (.error failure) exchanges
  | failed {exchanges : List Exchange} {results : List Value} {item : Value}
      {outcome : Outcome (List Value)} {failure : Failure}
      (h : f.Transcribes items exchanges results) (hi : items[results.length]? = some item)
      (hr : f.Reads results.length outcome (.error failure)) :
      Tells f items stop (.error failure) (exchanges ++ [⟨f, f.given item, outcome⟩])

theorem Tells.map_call {f : Callable} {items : List Value} {stop : Value → Bool}
    {ended : Except Failure (List Value)} {exchanges : List Exchange}
    (h : f.Tells items stop ended exchanges) : exchanges.map Exchange.call =
      (items.take exchanges.length).map fun item ↦ (f, f.given item) := by
  cases h with
  | exhausted h | stopped h | missed h => rw [h.map_call, h.length_eq]
  | failed h hi hr =>
    rw [List.length_append, List.length_singleton, h.length_eq, List.take_add_one, hi,
      List.map_append, List.map_append, h.map_call]
    rfl

variable {σ : Type} {calls : Calls σ} {f : Callable} {seq : Sequence} {stop : Value → Bool}

theorem Turn.transcribed {index : Nat} {item : Value} {t t' : σ × List Exchange}
    {judged : Except Failure Value} (h : f.Turn calls.transcribed seq index item t judged t') :
    ∃ outcome, t'.2.reverse = t.2.reverse ++ [⟨f, f.given item, outcome⟩] ∧
      f.Reads index outcome judged := by
  have hleaves := h.leaves
  subst hleaves
  exact ⟨_, List.reverse_cons, h.reads⟩

theorem Reaches.stop_eq_false {s t : σ} {index : Nat} {made : List (Callable × List Value)}
    {results : List Value} (h : f.Reaches calls seq stop s index t made results) :
    ∀ r ∈ results, stop r = false := by
  induction h with
  | start => nofun
  | next h hturn hstop ih => exact List.forall_mem_append.2 ⟨ih, List.forall_mem_singleton.2 hstop⟩

theorem Reaches.transcribes {s : σ} {t : σ × List Exchange} {index : Nat}
    {made : List (Callable × List Value)} {results : List Value}
    (h : f.Reaches calls.transcribed seq stop (s, []) index t made results) :
    f.Transcribes seq.items t.2.reverse results := by
  induction h with
  | start => exact .nil
  | next h hturn hstop ih =>
    obtain ⟨outcome, htranscript, hreads⟩ := hturn.transcribed
    rw [htranscript]
    rw [← h.length_results] at hturn hreads
    exact .snoc ih hturn.getElem hreads

theorem Ends.tells {s : σ} {t : σ × List Exchange} {made : List (Callable × List Value)}
    {ended : Except Failure (List Value)}
    (h : f.Ends calls.transcribed seq stop (s, []) ended t made) :
    f.Tells seq.items stop ended t.2.reverse := by
  cases h with
  | exhausted h => exact .exhausted h.transcribes h.length_results h.stop_eq_false
  | stray h hi hparams hopen hfit =>
    have hlt := (List.getElem?_eq_some_iff.1 hi).1
    rw [← h.length_results] at hlt
    exact .missed h.transcribes hlt
  | failed h hturn =>
    obtain ⟨outcome, htranscript, hreads⟩ := hturn.transcribed
    rw [htranscript]
    rw [← h.length_results] at hturn hreads
    exact .failed h.transcribes hturn.getElem hreads
  | stopped h hturn hstop =>
    obtain ⟨outcome, htranscript, hreads⟩ := hturn.transcribed
    rw [htranscript]
    rw [← h.length_results] at hturn hreads
    exact .stopped (.snoc h.transcribes hturn.getElem hreads) h.stop_eq_false hstop

end Callable

namespace Operation

variable {σ : Type} {calls : Calls σ} {op : Operation} {v w : Value} {seq : Sequence}
  {c : Contract} {p : Passing}

theorem exchanges_of_denies {failure : Failure} (h : op.Denies v w failure) (s : σ) :
    op.exchanges calls v w s = [] := by
  rw [exchanges, apply_of_denies h, List.reverse_nil]

theorem tells_of_accepts (calls : Calls σ) (h : op.Accepts v w seq c p) (s : σ) :
    ∃ ended, (op.apply calls v w s).1 = ended.map (op.answer v seq c) ∧
      c.callable.Tells seq.items op.stop ended (op.exchanges calls v w s) := by
  obtain ⟨ended, t, made, he⟩ :=
    Contract.exists_ends calls.transcribed seq op.stop h.contract (s, [])
  have hrun := apply_recorded calls.transcribed op v w (s, []) []
  rw [apply_of_ends h he] at hrun
  have hplain := apply_of_projectsTo (calls.noted_projectsTo id) op v w (s, [])
  rw [← Calls.transcribed, hrun] at hplain
  refine ⟨ended, congrArg Prod.fst hplain, ?_⟩
  rw [exchanges, hrun]
  exact he.tells

end Operation

end DynSeq
