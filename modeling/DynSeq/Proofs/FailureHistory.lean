import DynSeq.Proofs.OperationCall

namespace DynSeq

/-- What can stand behind an error: an error value, or an error of the surrounding program, of which
only its text and the texts behind it are known. -/
inductive Source where
  | error (e : ErrorValue)
  | foreign (text : String) (behind : List String)

mutual
/-- What stands directly behind an error. An error value that wraps another error stands for it, so
that the error wrapped is passed over. -/
def ErrorValue.source? : ErrorValue → Option Source
  | .mk _ cause => cause.source?
def Cause.source? : Cause → Option Source
  | .message _ => none
  | .failure failure => failure.source?
  | .wrapped error => error.source?
  | .foreign _ _ [] => none
  | .foreign _ _ (text :: behind) => some (.foreign text behind)
def Failure.source? : Failure → Option Source
  | .callableFailed _ source => some (.error source)
  | _ => none
end

namespace Source

def text : Source → String
  | .error e => e.text
  | .foreign text _ => text

def source? : Source → Option Source
  | .error e => e.source?
  | .foreign _ [] => none
  | .foreign _ (text :: behind) => some (.foreign text behind)

/-- Going from source to source comes to an end after these texts. -/
inductive Leads : Option Source → List String → Prop
  | done : Leads none []
  | step {source : Source} {texts : List String} :
      Leads source.source? texts → Leads (some source) (source.text :: texts)

theorem Leads.unique {source : Option Source} {texts texts' : List String}
    (h : Leads source texts) (h' : Leads source texts') : texts = texts' := by
  induction h generalizing texts' with
  | done =>
    cases h'
    rfl
  | step h ih =>
    cases h' with
    | step h' => rw [ih h']

theorem leads_foreign (text : String) (behind : List String) :
    Leads (some (.foreign text behind)) (text :: behind) := by
  induction behind generalizing text with
  | nil => exact .step .done
  | cons next rest ih => exact .step (ih next)

end Source

open Source (Leads)

mutual
theorem ErrorValue.leads_sources : (e : ErrorValue) → Leads e.source? e.sources
  | .mk _ cause => cause.leads_sources
theorem Cause.leads_sources : (cause : Cause) → Leads cause.source? cause.sources
  | .message _ => .done
  | .failure failure => failure.leads_sources
  | .wrapped error => error.leads_sources
  | .foreign _ _ [] => .done
  | .foreign _ _ (text :: behind) => Source.leads_foreign text behind
theorem Failure.leads_sources : (failure : Failure) → Leads failure.source? failure.sources
  | .callableFailed _ source => .step source.leads_sources
  | .notASlice _ | .notAFunction _ | .badInputArity _ | .badOutputArity _ _
  | .firstReturnNotBool _ | .secondReturnNotError _ _ | .elementNotAssignable _ _ _ => .done
end

theorem ErrorValue.leads_iff {e : ErrorValue} {texts : List String} :
    Leads e.source? texts ↔ texts = e.sources :=
  ⟨fun h ↦ h.unique e.leads_sources, fun h ↦ h ▸ e.leads_sources⟩

theorem Failure.leads_iff {failure : Failure} {texts : List String} :
    Leads failure.source? texts ↔ texts = failure.sources :=
  ⟨fun h ↦ h.unique failure.leads_sources, fun h ↦ h ▸ failure.leads_sources⟩

theorem Failure.sources_eq_nil {failure : Failure}
    (h : ∀ index e, failure ≠ .callableFailed index e) : failure.sources = [] := by
  cases failure with
  | callableFailed index e => exact absurd rfl (h index e)
  | _ => rfl

variable {σ : Type}

inductive Callable.HandsOn (h : Host σ) (f : Callable) (args : List Value) (t : σ)
    (e : ErrorValue) : Prop
  | fallible (routine : f.implementation.routine = .fallible)
      (fails : (h.fallible f.implementation.identity args t).1 = .returned (.error e))
  | results {primary : Value} (routine : f.implementation.routine = .results)
      (fails : (h.results f.implementation.identity args t).1 = .returned [primary, .error e])

theorem Callable.HandsOn.calls_eq {h : Host σ} {f : Callable} {args : List Value} {t : σ}
    {e : ErrorValue} (he : f.HandsOn h args t e) :
    ∃ primary, (h.calls f args t).1 = .returned [primary, .error e] := by
  cases he with
  | fallible routine fails =>
    refine ⟨.null, ?_⟩
    simp only [Host.calls, Host.runWith, routine, fails]
    rfl
  | @results primary routine fails =>
    refine ⟨primary, ?_⟩
    simp only [Host.calls, Host.runWith, routine, fails]

structure Level (σ : Type) where
  op : Operation
  seq : Value
  func : Value
  start : σ

namespace Level

variable {h : Host σ} {upper lower : Level σ} {index : Nat} {e : ErrorValue}

def outcome (h : Host σ) (l : Level σ) : Except Failure Value :=
  (l.op.apply h.calls l.seq l.func l.start).1

/-- The failure of a level as an error value: wrapped by whoever applied the operation, or answered
by the operation as a callable, and then wrapped as often as one likes. -/
inductive Reports (h : Host σ) (l : Level σ) : ErrorValue → Prop
  | applied (identity : Nat) {failure : Failure} (hfails : l.outcome h = .error failure) :
      Reports h l (.mk identity (.failure failure))
  | answered {identity : Nat} {first : Value} {e : ErrorValue} {t : σ}
      (hcall : h.calls (l.op.callable identity) [l.seq, l.func] l.start =
        (.returned [first, .error e], t)) : Reports h l e
  | wrapped (identity : Nat) {e : ErrorValue} (he : Reports h l e) :
      Reports h l (.mk identity (.wrapped e))

/-- The operation of a level comes to the item at the index, and the callable, which has a result
for errors, gives this error there. -/
inductive FailsAt (h : Host σ) (l : Level σ) (index : Nat) (e : ErrorValue) : Prop
  | intro {seq : Sequence} {c : Contract} {p : Passing} {t : σ}
      {made : List (Callable × List Value)} {results : List Value} {item : Value}
      (accepts : l.op.Accepts l.seq l.func seq c p)
      (reaches : c.callable.Reaches h.calls seq l.op.stop l.start index t made results)
      (getElem : seq.items[index]? = some item) (admits : c.callable.Admits seq item)
      (channel : c.hasErrorChannel = true)
      (handsOn : c.callable.HandsOn h (c.callable.given item) t e)

theorem outcome_of_failsAt (hf : upper.FailsAt h index e) :
    upper.outcome h = .error (.callableFailed index e) := by
  cases hf with
  | @intro seq c p t made results item accepts reaches getElem admits channel handsOn =>
    obtain ⟨primary, hcall⟩ := handsOn.calls_eq
    have hlength := Contract.outCount_eq accepts.contract
    simp only [Contract.outCount, channel, if_true] at hlength
    have hreads : c.callable.Reads index (h.calls c.callable (c.callable.given item) t).1
        (.error (.callableFailed index e)) := by
      rw [hcall]
      exact .failed primary e hlength.symm
    have hends := Callable.Ends.failed reaches ⟨getElem, admits, hreads, rfl⟩
    rw [outcome, Operation.apply_recorded h.calls _ _ _ _ [],
      Operation.apply_of_ends accepts hends]
    rfl

theorem Reports.of_failure (hr : lower.Reports h e) : ∃ failure,
    lower.outcome h = .error failure ∧ e.text = failure.message ∧ e.sources = failure.sources := by
  induction hr with
  | applied identity hfails => exact ⟨_, hfails, rfl, rfl⟩
  | @answered identity first e t hcall =>
    rw [Host.calls_operation] at hcall
    cases hrun : lower.op.apply h.calls lower.seq lower.func lower.start with
    | mk ran u =>
      cases ran with
      | ok answered =>
        rw [Host.observed_eq, hrun] at hcall
        cases hcall
      | error failure =>
        rw [Host.observed_eq, hrun] at hcall
        cases hcall
        exact ⟨failure, congrArg Prod.fst hrun, rfl, rfl⟩
  | wrapped identity he ih => exact ih

end Level

/-- Operations one inside the other, below the first of them. Each is applied by the callable of the
one above, at the item with the given index, and its failure is handed on as an error. -/
inductive Tower (h : Host σ) : Level σ → List (Nat × Level σ) → Prop
  | innermost {l : Level σ} {failure : Failure} (hfails : l.outcome h = .error failure) :
      Tower h l []
  | outer {upper lower : Level σ} {below : List (Nat × Level σ)} {index : Nat} {e : ErrorValue}
      (hreports : lower.Reports h e) (hfails : upper.FailsAt h index e)
      (inner : Tower h lower below) : Tower h upper ((index, lower) :: below)

variable {h : Host σ} {top : Level σ} {below : List (Nat × Level σ)}

/-- The failure of the first level, with those of the levels below it down to the last. Each but the
last is that of the call at the index of its level, and says so in front of what the next one says. -/
structure History (h : Host σ) (top : Level σ) (below : List (Nat × Level σ)) (failure : Failure)
    (failures : List Failure) (last : Failure) : Prop where
  outcome : top.outcome h = .error failure
  outcomes : below.map (·.2.outcome h) = failures.map .error
  last_eq : (failure :: failures).getLast? = some last
  handed : ∀ k index : Nat, (below.map (·.1))[k]? = some index →
    ∃ (e : ErrorValue) (next : Failure),
      (failure :: failures)[k]? = some (.callableFailed index e) ∧
      failures[k]? = some next ∧ (Failure.callableFailed index e).message =
        "f execution number " ++ toString index ++ " returned: " ++ next.message
  sources : failure.sources = failures.map Failure.message ++ last.sources

theorem History.cons {upper lower : Level σ} {index : Nat} {e : ErrorValue} {failure last : Failure}
    {failures : List Failure} (history : History h lower below failure failures last)
    (hreports : lower.Reports h e) (hfails : upper.FailsAt h index e) :
    History h upper ((index, lower) :: below) (.callableFailed index e) (failure :: failures)
      last := by
  obtain ⟨hlower, houtcomes, hlast, hhanded, hsources⟩ := history
  obtain ⟨failure', hfailure, htext, hbehind⟩ := hreports.of_failure
  cases hfailure.symm.trans hlower
  constructor
  · exact Level.outcome_of_failsAt hfails
  · rw [List.map_cons, List.map_cons, houtcomes, hlower]
  · rw [List.getLast?_cons_cons, hlast]
  · intro k index' hindex
    cases k with
    | zero =>
      cases hindex
      refine ⟨e, failure, rfl, rfl, ?_⟩
      rw [← htext]
      rfl
    | succ k => exact hhanded k index' hindex
  · rw [Failure.sources, htext, hbehind, hsources]
    rfl

theorem Tower.exists_history (tower : Tower h top below) :
    ∃ failure failures last, History h top below failure failures last := by
  induction tower with
  | innermost hfails => exact ⟨_, [], _, hfails, rfl, rfl, nofun, rfl⟩
  | outer hreports hfails inner ih =>
    obtain ⟨failure, failures, last, history⟩ := ih
    exact ⟨_, _, _, history.cons hreports hfails⟩

/-- However deep a failure comes from, nothing of its history is lost, doubled or moved: going from
source to source one meets the failure of each level below once and in order, then the error with
which the callable of the innermost level failed and what stands behind it, and then the end. -/
theorem Tower.keeps_history (tower : Tower h top below) :
    ∃ failure failures last, History h top below failure failures last ∧
      (∀ texts, Leads failure.source? texts ↔
        texts = failures.map Failure.message ++ last.sources) ∧
      (∀ index e, last = .callableFailed index e → last.sources = e.text :: e.sources ∧
        ∀ texts, Leads e.source? texts ↔ texts = e.sources) ∧
      ((∀ index e, last ≠ .callableFailed index e) → last.sources = []) := by
  obtain ⟨failure, failures, last, history⟩ := tower.exists_history
  refine ⟨failure, failures, last, history, ?_, ?_, Failure.sources_eq_nil⟩
  · intro texts
    rw [Failure.leads_iff, history.sources]
  · intro index e hlast
    subst hlast
    exact ⟨rfl, fun texts ↦ ErrorValue.leads_iff⟩

namespace Nested

def halve : Callable := ⟨"halve", ⟨[.int], [.int]⟩, ⟨0, .results⟩⟩

def parse : Callable := ⟨"parse", ⟨[.any], [.bool, .error]⟩, ⟨1, .results⟩⟩

def load : Callable := ⟨"load", ⟨[], [.bool, .error]⟩, ⟨2, .fallible⟩⟩

def numbers : Level Nat := ⟨.map, .array .int [.int 2, .int 3], .function halve, 0⟩

def cells : Level Nat := ⟨.find, .array .any [.null, .string "a"], .function parse, 0⟩

def rows : Level Nat := ⟨.filter, .array .any [.bool true], .function load, 0⟩

/-- Halving panics at an odd number. Parsing a text maps over numbers and gives what mapping, as a
callable, answers. Loading fails with what parsing fails with, wrapped twice. -/
def host : Host Nat :=
  let halving : Host Nat :=
    { fresh := fun next ↦ (next, next + 1)
      results := fun _ args next ↦ match args with
        | [.int 3] => (.panicked ⟨some "odd", next⟩, next + 1)
        | _ => (.returned [.int 1], next)
      fallible := fun _ _ next ↦ (.returned (.ok .null), next) }
  let parsing : Host Nat :=
    { halving with
      results := fun identity args next ↦ match identity, args with
        | 1, [.string _] =>
          halving.calls (Operation.map.callable 3) [numbers.seq, numbers.func] numbers.start
        | 1, _ => (.returned [.bool false, .null], next)
        | _, _ => halving.results identity args next }
  { parsing with
    fallible := fun _ _ next ↦
      match cells.op.apply parsing.calls cells.seq cells.func cells.start with
      | (.ok v, next') => (.returned (.ok v), next')
      | (.error failure, next') =>
        (.returned (.error (.mk next (.wrapped (.mk next' (.failure failure))))), next' + 1) }

def odd : Failure := .callableFailed 1 (.mk 0 (.message "panicked: odd"))

def unparsed : Failure := .callableFailed 1 (.mk 1 (.failure odd))

theorem panic_below_two_levels :
    Tower host rows [(0, cells), (1, numbers)] ∧
      ∃ failure failures last,
        History host rows [(0, cells), (1, numbers)] failure failures last ∧
        (∀ texts, Leads failure.source? texts ↔
          texts = failures.map Failure.message ++ last.sources) ∧
        (∀ index e, last = .callableFailed index e → last.sources = e.text :: e.sources ∧
          ∀ texts, Leads e.source? texts ↔ texts = e.sources) ∧
        ((∀ index e, last ≠ .callableFailed index e) → last.sources = []) := by
  have hnumbers : numbers.outcome host = .error odd := rfl
  have hanswer : host.calls (Operation.map.callable 3) [numbers.seq, numbers.func] numbers.start =
    (.returned [.null, .error (.mk 1 (.failure odd))], 2) := rfl
  have hfirst : parse.Turn host.calls ⟨[.null, .string "a"], some .any⟩ 0 .null 0
      (.ok (.bool false)) 0 := by
    refine ⟨rfl, ?_, .clean _ rfl, rfl⟩
    intro param hparam _
    cases hparam
    rfl
  have hcells : cells.FailsAt host 1 (.mk 1 (.failure odd)) := by
    refine .intro ⟨rfl, rfl, rfl⟩ (.next .start hfirst rfl) rfl ?_ rfl (.results rfl rfl)
    intro param hparam _
    cases hparam
    rfl
  have houtcome : cells.outcome host = .error unparsed := rfl
  have hrows : rows.FailsAt host 0 (.mk 0 (.wrapped (.mk 2 (.failure unparsed)))) :=
    .intro ⟨rfl, rfl, rfl⟩ .start rfl nofun rfl (.fallible rfl rfl)
  have tower : Tower host rows [(0, cells), (1, numbers)] :=
    .outer (.wrapped 0 (.applied 2 houtcome)) hrows
      (.outer (.answered hanswer) hcells (.innermost hnumbers))
  exact ⟨tower, tower.keeps_history⟩

end Nested

end DynSeq
