import DynSeq.CommandLine
import DynSeq.Proofs.Agreement
import DynSeq.Proofs.FileLayer

namespace DynSeq

namespace OutputFormat

theorem name_injective {f g : OutputFormat} (h : f.name = g.name) : f = g := by
  have hname := ofName?_name f
  rw [h, ofName?_name] at hname
  exact (Option.some.inj hname).symm

end OutputFormat

namespace Settings

section Environment

variable {e : Environment} {l : Layer}

end Environment

end Settings

namespace CommandLine

open Settings

structure Effective (i : Invocation) (e : Environment) (file : Layer) (s : Settings) : Prop where
  output : if i.command.json then s.output = .json else match e.output with
    | some name => s.output.name = Text.lowercase name
    | none => s.output = file.output.getD .text
  log : s.log = (i.log.or (e.log.or file.log)).getD "warn"
  untyped : s.untyped = true ↔ i.command.untyped = true ∨ match e.untyped with
    | some answer => Text.lowercase answer ∈ ["1", "true", "yes"]
    | none => file.untyped = some true

variable {read : Reading} {i : Invocation} {e : Environment} {file l : Layer} {s : Settings}

theorem Effective.unique {s' : Settings} (h : Effective i e file s) (h' : Effective i e file s') :
    s = s' := by
  obtain ⟨houtput, hlog, huntyped⟩ := h
  obtain ⟨houtput', hlog', huntyped'⟩ := h'
  cases s
  cases s'
  simp only [Settings.mk.injEq]
  refine ⟨?_, hlog.trans hlog'.symm, Bool.eq_iff_iff.2 (huntyped.trans huntyped'.symm)⟩
  cases hjson : i.command.json with
  | true =>
    simp only [hjson, if_true] at houtput houtput'
    exact houtput.trans houtput'.symm
  | false =>
    cases hname : e.output with
    | none =>
      simp only [hjson, hname] at houtput houtput'
      exact houtput.trans houtput'.symm
    | some name =>
      simp only [hjson, hname] at houtput houtput'
      exact OutputFormat.name_injective (houtput.trans houtput'.symm)

end CommandLine

end DynSeq
