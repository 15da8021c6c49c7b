import Mathlib.Data.List.Basic

set_option autoImplicit false

/-!
# A parser of segment streams

Packets arrive as single segments or as chains FIRST, middle*, LAST, in one of
two modes. A chain that is not finished is dropped whole by a new FIRST and by
any segment of the other mode, and a segment outside a chain is dropped alone.
-/
namespace SegmentParser
variable {α : Type}

inductive Mode where
  | linear
  | paged
  deriving DecidableEq, Repr

structure Packet (α : Type) where
  mode : Mode
  first : α
  rest : List α

namespace Packet
variable (p : Packet α)

def segments : List α := p.first :: p.rest

def append (x : α) : Packet α := { p with rest := p.rest ++ [x] }

@[simp] theorem append_mode (x : α) : (p.append x).mode = p.mode := rfl
@[simp] theorem append_first (x : α) : (p.append x).first = p.first := rfl
@[simp] theorem append_rest (x : α) : (p.append x).rest = p.rest ++ [x] := rfl

end Packet

/-- `skip` is nothing for the parser, `refused` a segment that only ends what
    was going on. -/
inductive Event where
  | skip
  | refused
  | segment (mode : Mode) (first last : Bool)
  deriving DecidableEq, Repr

/-- The unfinished chain, as long as the next segment has its mode. -/
def sameMode (mode : Mode) (st : Option (Packet α)) : Option (Packet α) :=
  st.filter fun p => p.mode = mode

@[simp] theorem sameMode_none (mode : Mode) : sameMode mode (none : Option (Packet α)) = none := rfl

@[simp] theorem sameMode_some (mode : Mode) (p : Packet α) :
    sameMode mode (some p) = if p.mode = mode then some p else none := by
  simp [sameMode, Option.filter]

theorem sameMode_eq_some {mode : Mode} {st : Option (Packet α)} {p : Packet α}
    (h : sameMode mode st = some p) : st = some p ∧ p.mode = mode := by
  cases st with
  | none => cases h
  | some q =>
    by_cases hq : q.mode = mode
    · simp only [sameMode_some, hq, if_true, Option.some.injEq] at h
      exact ⟨congrArg some h, h ▸ hq⟩
    · simp [hq] at h

theorem sameMode_sameMode (mode : Mode) (st : Option (Packet α)) :
    sameMode mode (sameMode mode st) = sameMode mode st := by
  cases st with
  | none => rfl
  | some p => by_cases hp : p.mode = mode <;> simp [hp]

/-- The chain left unfinished by this segment, and the packet it completes. -/
def parse (st : Option (Packet α)) (x : α) : Event → Option (Packet α) × Option (Packet α)
  | .skip => (st, none)
  | .refused => (none, none)
  | .segment mode true true => (none, some ⟨mode, x, []⟩)
  | .segment mode true false => (some ⟨mode, x, []⟩, none)
  | .segment mode false false => ((sameMode mode st).map fun p => p.append x, none)
  | .segment mode false true => (none, (sameMode mode st).map fun p => p.append x)

theorem parse_sameMode (st : Option (Packet α)) (x : α) (mode : Mode) (first last : Bool) :
    parse (sameMode mode st) x (.segment mode first last) =
      parse st x (.segment mode first last) := by
  cases first <;> cases last <;> simp [parse, sameMode_sameMode]

theorem parse_mode {st : Option (Packet α)} {x : α} {mode : Mode} {first last : Bool}
    {p : Packet α} (h : (parse st x (.segment mode first last)).2 = some p) : p.mode = mode := by
  cases first <;> cases last <;> simp only [parse, Option.map_eq_some_iff, reduceCtorEq] at h
  · obtain ⟨q, hq, rfl⟩ := h
    exact (sameMode_eq_some hq).2
  · rw [← Option.some.inj h]

theorem parse_complete {st : Option (Packet α)} {x : α} {mode : Mode} {first last : Bool}
    {p : Packet α} (h : (parse st x (.segment mode first last)).2 = some p) :
    (parse st x (.segment mode first last)).1 = none := by
  cases first <;> cases last
  · cases h
  · rfl
  · cases h
  · rfl

/-- A FIRST, or a segment of the other mode, drops the chain and is parsed as if
    there had been none. -/
theorem parse_interrupted {p : Packet α} {mode : Mode} {first : Bool}
    (h : first = true ∨ mode ≠ p.mode) (x : α) (last : Bool) :
    parse (some p) x (.segment mode first last) = parse none x (.segment mode first last) := by
  cases first with
  | true => cases last <;> rfl
  | false =>
    have hmode : p.mode ≠ mode := by simpa using h.imp_right Ne.symm
    cases last <;> simp [parse, hmode]

/-- A whole stream: the chain left unfinished and the packets, in order. -/
def parseAll (st : Option (Packet α)) : List (α × Event) → Option (Packet α) × List (Packet α)
  | [] => (st, [])
  | (x, e) :: es =>
    let r := parse st x e
    let rest := parseAll r.1 es
    (rest.1, r.2.toList ++ rest.2)

theorem parseAll_append (st : Option (Packet α)) (es es' : List (α × Event)) :
    parseAll st (es ++ es') =
      ((parseAll (parseAll st es).1 es').1,
        (parseAll st es).2 ++ (parseAll (parseAll st es).1 es').2) := by
  induction es generalizing st with
  | nil => rfl
  | cons e es ih => simp [parseAll, ih]

theorem parseAll_middles (p : Packet α) (xs : List α) :
    parseAll (some p) (xs.map fun x => (x, .segment p.mode false false)) =
      (some { p with rest := p.rest ++ xs }, []) := by
  induction xs generalizing p with
  | nil => simp [parseAll]
  | cons x xs ih =>
    have hstep : parse (some p) x (.segment p.mode false false) = (some (p.append x), none) := by
      simp [parse]
    have hrest := ih (p.append x)
    simp only [Packet.append_mode, Packet.append_rest, List.append_assoc] at hrest
    simp [parseAll, hstep, hrest]

theorem parseAll_chain (st : Option (Packet α)) (mode : Mode) (x y : α) (xs : List α) :
    parseAll st ((x, .segment mode true false) ::
        (xs.map fun z => (z, .segment mode false false)) ++ [(y, .segment mode false true)]) =
      (none, [⟨mode, x, xs ++ [y]⟩]) := by
  have hmiddles := parseAll_middles ⟨mode, x, []⟩ xs
  simp only [List.nil_append] at hmiddles
  simp [parseAll_append, parseAll, parse, hmiddles, Packet.append]

end SegmentParser
