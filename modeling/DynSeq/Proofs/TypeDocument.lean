import DynSeq.CommandLine.Listing
import DynSeq.Proofs.TypeText

namespace DynSeq

section Reading

theorem eq_of_write_eq {α β : Type} {write : α → β} {read : β → Option α}
    (h : ∀ a, read (write a) = some a) {a b : α} (heq : write a = write b) : a = b := by
  have hread := h a
  rw [heq, h b] at hread
  exact (Option.some.inj hread).symm

theorem Signature.ofMembers?_toMembers {s : Signature}
    (hparams : Ty.ofJsons? (Ty.toJsons s.params) = some s.params)
    (hresults : Ty.ofJsons? (Ty.toJsons s.results) = some s.results) :
    Signature.ofMembers? s.toMembers = (some (some s.params), some (some s.results)) := by
  simp [Signature.toMembers, Signature.ofMembers?, hparams, hresults]

mutual
theorem Ty.ofJson?_toJson : ∀ t : Ty, Ty.ofJson? t.toJson = some t
  | .array e => by rw [Ty.toJson, Ty.ofJson?, Ty.ofJson?_toJson e, Option.map_some]
  | .function params results => by
    have hread := Signature.ofMembers?_toMembers (s := ⟨params, results⟩)
      (Ty.ofJsons?_toJsons params) (Ty.ofJsons?_toJsons results)
    rw [Signature.toMembers] at hread
    rw [Ty.toJson, Ty.ofJson?, Signature.ofJson?, hread]
    rfl
  | .any | .bool | .int | .float | .string | .error => rfl
theorem Ty.ofJsons?_toJsons : ∀ ts : List Ty, Ty.ofJsons? (Ty.toJsons ts) = some ts
  | [] => rfl
  | t :: ts => by rw [Ty.toJsons, Ty.ofJsons?, Ty.ofJson?_toJson t, Ty.ofJsons?_toJsons ts]; rfl
end

variable {others : List (String × Json)}

theorem Signature.ofMembers?_append
    (h : ∀ member ∈ others, member.1 ≠ "params" ∧ member.1 ≠ "results")
    (members : List (String × Json)) :
    Signature.ofMembers? (others ++ members) = Signature.ofMembers? members := by
  induction others with
  | nil => rfl
  | cons member others ih =>
    obtain ⟨key, value⟩ := member
    obtain ⟨⟨hparams, hresults⟩, hothers⟩ := List.forall_mem_cons.1 h
    cases value <;> simp [Signature.ofMembers?, ih hothers, hparams, hresults]

theorem Signature.ofJson?_append
    (h : ∀ member ∈ others, member.1 ≠ "params" ∧ member.1 ≠ "results") (s : Signature) :
    Signature.ofJson? (.object (others ++ s.toMembers)) = some s := by
  rw [Signature.ofJson?, Signature.ofMembers?_append h, Signature.ofMembers?_toMembers
    (Ty.ofJsons?_toJsons s.params) (Ty.ofJsons?_toJsons s.results)]

theorem Signature.ofJson?_toJson (s : Signature) : Signature.ofJson? s.toJson = some s :=
  Signature.ofJson?_append (List.forall_mem_nil _) s

theorem Signature.ofJson?_listingEntry (name : String) (s : Signature) :
    Signature.ofJson? (CommandLine.listingEntry name s) = some s := by
  refine Signature.ofJson?_append ?_ s
  simp

end Reading

namespace Ty

section Printing

def printed (indent : Nat) (t : Ty) : List Char :=
  (t.toJson.pretty indent).toList

def printedList (indent : Nat) (ts : List Ty) : List Char :=
  ((Json.array (toJsons ts)).pretty indent).toList

def margin (indent : Nat) : List Char :=
  '\n' :: ("".pushn ' ' indent).toList

def printedAfter (indent : Nat) : List Ty → List Char
  | [] => margin indent ++ [']']
  | t :: ts => ',' :: (margin (indent + 2) ++ (printed (indent + 2) t ++ printedAfter indent ts))

theorem printed_word {t : Ty} (h : t.isWord = true) (indent : Nat) :
    printed indent t = '"' :: (t.letters ++ ['"']) := by
  cases t <;> cases h <;>
    simp [printed, toJson, Json.pretty, Json.print, Json.printString, Json.printChar, letters, text]

theorem printed_array (indent : Nat) (e : Ty) : printed indent (.array e) =
    '\x7b' :: (margin (indent + 2) ++ ("\"array\": ".toList ++ (printed (indent + 2) e ++
      (margin indent ++ ['\x7d'])))) := by
  have hkey : (Json.printString "array").toList = "\"array\"".toList := rfl
  simp [printed, toJson, Json.pretty, Json.prettyMembers, Json.block, margin, hkey]

theorem printed_function (indent : Nat) (params results : List Ty) :
    printed indent (.function params results) =
      '\x7b' :: (margin (indent + 2) ++ ("\"function\": \x7b".toList ++ (margin (indent + 4) ++
        ("\"params\": ".toList ++ (printedList (indent + 4) params ++ (',' :: margin (indent + 4) ++
          ("\"results\": ".toList ++ (printedList (indent + 4) results ++ (margin (indent + 2) ++
            '\x7d' :: (margin indent ++ ['\x7d'])))))))))) := by
  have hkey : (Json.printString "function").toList = "\"function\"".toList := rfl
  have hparams : (Json.printString "params").toList = "\"params\"".toList := rfl
  have hresults : (Json.printString "results").toList = "\"results\"".toList := rfl
  simp [printed, printedList, toJson, Json.pretty, Json.prettyMembers, Json.block, margin, hkey,
    hparams, hresults]

theorem printedList_nil (indent : Nat) : printedList indent [] = ['[', ']'] := by
  simp [printedList, toJsons, Json.pretty, Json.prettyItems, Json.block]

theorem printedList_cons (indent : Nat) (t : Ty) (ts : List Ty) : printedList indent (t :: ts) =
    '[' :: (margin (indent + 2) ++ (printed (indent + 2) t ++ printedAfter indent ts)) := by
  induction ts generalizing t with
  | nil =>
    simp [printedList, toJsons, Json.pretty, Json.prettyItems, Json.block, margin, printed,
      printedAfter]
  | cons u ts ih =>
    simpa [printedList, toJsons, Json.pretty, Json.prettyItems, Json.block, margin, printed,
      printedAfter] using ih u

/-- What is printed for a type, with whatever stands behind it, starts with what is printed for no
other type. -/
def Separates (t : Ty) : Prop :=
  ∀ indent u x y, printed indent t ++ x = printed indent u ++ y → t = u

variable {indent : Nat} {t : Ty} {ts us : List Ty} {x y : List Char}

theorem printed_word_ne (ht : t.isWord = true) : printed indent t ++ x ≠ '\x7b' :: y := by
  simp [printed_word ht]

theorem separates_word (ht : t.isWord = true) : Separates t := by
  intro indent u x y h
  cases hu : u.isWord with
  | true =>
    simp only [printed_word ht, printed_word hu, List.cons_append, List.append_assoc,
      List.cons.injEq, true_and] at h
    exact (word_cancel ht hu h).1
  | false =>
    cases u with
    | array e =>
      rw [printed_array] at h
      exact absurd h (printed_word_ne ht)
    | function params results =>
      rw [printed_function] at h
      exact absurd h (printed_word_ne ht)
    | _ => cases hu

theorem separates_array {e : Ty} (he : Separates e) : Separates (.array e) := by
  intro indent u x y h
  cases u with
  | array e' =>
    simp only [printed_array, List.cons_append, List.append_assoc, List.cons.injEq, true_and,
      List.append_cancel_left_eq] at h
    rw [he _ _ _ _ h]
  | function params results => simp [printed_array, printed_function] at h
  | _ =>
    rw [printed_array] at h
    exact absurd h.symm (printed_word_ne rfl)

theorem printedAfter_cancel (hts : ∀ t ∈ ts, Separates t)
    (h : printedAfter indent ts ++ x = printedAfter indent us ++ y) : ts = us := by
  induction ts generalizing us with
  | nil =>
    cases us with
    | nil => rfl
    | cons u us => simp [printedAfter, margin] at h
  | cons t ts ih =>
    obtain ⟨ht, hts⟩ := List.forall_mem_cons.1 hts
    cases us with
    | nil => simp [printedAfter, margin] at h
    | cons u us =>
      simp only [printedAfter, List.cons_append, List.append_assoc, List.cons.injEq, true_and,
        List.append_cancel_left_eq] at h
      obtain rfl := ht _ _ _ _ h
      rw [ih hts (List.append_cancel_left h)]

theorem printedList_cancel (hts : ∀ t ∈ ts, Separates t)
    (h : printedList indent ts ++ x = printedList indent us ++ y) : ts = us := by
  cases ts with
  | nil =>
    cases us with
    | nil => rfl
    | cons u us => simp [printedList_nil, printedList_cons, margin] at h
  | cons t ts =>
    cases us with
    | nil => simp [printedList_nil, printedList_cons, margin] at h
    | cons u us =>
      have hafter : printedAfter indent (t :: ts) ++ x = printedAfter indent (u :: us) ++ y := by
        rw [printedList_cons, printedList_cons] at h
        simpa [printedAfter] using h
      exact printedAfter_cancel hts hafter

theorem separates_function {params results : List Ty} (hparams : ∀ t ∈ params, Separates t)
    (hresults : ∀ t ∈ results, Separates t) : Separates (.function params results) := by
  intro indent u x y h
  cases u with
  | array e => simp [printed_array, printed_function] at h
  | function params' results' =>
    simp only [printed_function, List.cons_append, List.append_assoc, List.cons.injEq, true_and,
      List.append_cancel_left_eq] at h
    obtain rfl := printedList_cancel hparams h
    simp only [List.append_cancel_left_eq, List.cons.injEq, true_and] at h
    rw [printedList_cancel hresults h]
  | _ =>
    rw [printed_function] at h
    exact absurd h.symm (printed_word_ne rfl)

mutual
theorem separates : ∀ t : Ty, Separates t
  | .array e => separates_array (separates e)
  | .function params results => separates_function (separates_all params) (separates_all results)
  | .any | .bool | .int | .float | .string | .error => separates_word rfl
theorem separates_all : ∀ ts : List Ty, ∀ t ∈ ts, Separates t
  | [] => nofun
  | t :: ts => List.forall_mem_cons.2 ⟨separates t, separates_all ts⟩
end

theorem eq_of_pretty_eq {u : Ty} (h : t.toJson.pretty indent = u.toJson.pretty indent) : t = u :=
  separates t indent u [] [] (by simp [printed, h])

theorem eq_of_pretty_array_eq (h : (Json.array (toJsons ts)).pretty indent =
    (Json.array (toJsons us)).pretty indent) : ts = us := by
  have hprinted : printedList indent ts ++ [] = printedList indent us ++ [] := by
    simp [printedList, h]
  exact printedList_cancel (separates_all ts) hprinted

end Printing

end Ty

/-- A type and a signature are read back from their documents, and a signature also from its entry
in the list of functions. No two have the same document, nor are their documents printed alike. -/
theorem type_documents_lossless :
    (∀ t : Ty, Ty.ofJson? t.toJson = some t) ∧
    (∀ s : Signature, Signature.ofJson? s.toJson = some s) ∧
    (∀ t u : Ty, t.toJson = u.toJson ↔ t = u) ∧
    (∀ s r : Signature, s.toJson = r.toJson ↔ s = r) ∧
    (∀ name s, Signature.ofJson? (CommandLine.listingEntry name s) = some s) ∧
    (∀ indent (t u : Ty), t.toJson.pretty indent = u.toJson.pretty indent ↔ t = u) ∧
    ∀ indent (ts us : List Ty), (Json.array (Ty.toJsons ts)).pretty indent =
      (Json.array (Ty.toJsons us)).pretty indent ↔ ts = us := by
  refine ⟨Ty.ofJson?_toJson, Signature.ofJson?_toJson, ?_, ?_, Signature.ofJson?_listingEntry,
    ?_, ?_⟩
  · exact fun t u ↦ ⟨eq_of_write_eq Ty.ofJson?_toJson, congrArg _⟩
  · exact fun s r ↦ ⟨eq_of_write_eq Signature.ofJson?_toJson, congrArg _⟩
  · intro indent t u
    refine ⟨Ty.eq_of_pretty_eq, ?_⟩
    intro h
    rw [h]
  · intro indent ts us
    refine ⟨Ty.eq_of_pretty_array_eq, ?_⟩
    intro h
    rw [h]

example : Signature.toJson ⟨[.array .int], [.bool, .error]⟩ =
    .object [("params", .array [.object [("array", .string "int")]]),
      ("results", .array [.string "bool", .string "error"])] :=
  rfl

end DynSeq
