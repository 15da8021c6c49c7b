import Mathlib.Data.List.Basic
import NssDrv.LogBuffer

set_option autoImplicit false

/-!
# Sizes of log buffers

The handler of the sysctl and the memory that it asks for. The monitor of a call
is the list of its events so far.
-/
namespace NssDrv.LogSizes
open HlosInterface CallTree LogBuffer

def allocEach (nentry : U32) : List ℕ → LogCall Unit
  | [] => return ()
  | i :: rest => do
    let _ ← nssDebugLogBufferAlloc i nentry
    allocEach nentry rest

/-- `nss_logbuffer_handler` after `proc_dointvec`, which has answered `ret` and left
    `nssCtlLogbuf`: what it returns, and the value that it leaves. -/
def nssLogbufferHandler (ret : ℤ) (write : Bool) (nssCtlLogbuf : U32) : LogCall (ℤ × U32) := do
  if ret ≠ 0 then return (ret, nssCtlLogbuf)
  if !write then return (ret, nssCtlLogbuf)
  if nssCtlLogbuf.toInt < 32 then return (ret, 0)
  allocEach nssCtlLogbuf (List.range NSS_MAX_CORES)
  return (ret, nssCtlLogbuf)

def entryEnd (index : ℕ) : ℕ :=
  NSS_LOG_DESCRIPTOR_SIZE.toNat + NSS_LOG_ENTRY_SIZE.toNat * (index + 1)

/-- The buffer comes from a `kmalloc` that covers every index below its count, and
    with that every index of a read. -/
def Inside (evs : List LogEvent) (new : RingBufferAddr) : Prop :=
  ∃ size, .saw (.kmalloc size) new.addr ∈ evs ∧
    (∀ index < new.nentries.toNat, entryEnd index ≤ size.toNat) ∧
    ∀ lastEntry : U32, entryEnd (lastEntry % new.nentries).toNat ≤ size.toNat

/-- An event of a call that is to make room for `nentry` entries. -/
def Covers (nentry : ℕ) (evs : List LogEvent) : LogEvent → Prop
  | .saw (.kmalloc size) _ =>
    NSS_LOG_DESCRIPTOR_SIZE.toNat + nentry * NSS_LOG_ENTRY_SIZE.toNat ≤ size.toNat
  | .saw (.dmaMapSingle _ size) _ =>
    NSS_LOG_DESCRIPTOR_SIZE.toNat + nentry * NSS_LOG_ENTRY_SIZE.toNat ≤ size.toNat
  | .saw (.attach _ new) _ => Inside evs new
  | .saw (.reattach _ new) _ => Inside evs new
  | .saw (.debugInterfaceTx _ new) _ => Inside evs new
  | _ => True

def Covered (nentry : ℕ) (evs : List LogEvent) : Prop := ∀ e ∈ evs, Covers nentry evs e

section Monitor
variable {nentry : ℕ} {evs : List LogEvent} {e : LogEvent} {new : RingBufferAddr}

theorem Inside.snoc (h : Inside evs new) : Inside (evs ++ [e]) new := by
  obtain ⟨size, hsize, hinside⟩ := h
  exact ⟨size, List.mem_append_left _ hsize, hinside⟩

theorem Covers.snoc {e' : LogEvent} (h : Covers nentry evs e') :
    Covers nentry (evs ++ [e]) e' := by
  unfold Covers at h ⊢
  split at h
  · exact h
  · exact h
  · exact h.snoc
  · exact h.snoc
  · exact h.snoc
  · trivial

theorem Covered.snoc (h : Covered nentry evs) (he : Covers nentry evs e) :
    Covered nentry (evs ++ [e]) := by
  intro e' he'
  rcases List.mem_append.mp he' with he' | he'
  · exact (h e' he').snoc
  · rw [List.mem_singleton] at he'
    subst he'
    exact he.snoc

abbrev Kept {α : Type} (nentry : ℕ) (p : LogCall α) (evs : List LogEvent) : Prop :=
  Always (fun evs e => evs ++ [e]) (Covered nentry) (fun _ => Covered nentry) p evs

theorem kept_tell {α : Type} {c : LogCommand} {p : LogCall α} (h : Covered nentry evs)
    (hp : ∀ evs', Covered nentry evs' → evs ⊆ evs' → Kept nentry p evs') :
    Kept nentry (.tell c p) evs :=
  .tell h (hp _ (h.snoc trivial) (List.subset_append_left _ _))

theorem kept_ask {α : Type} {q : LogQuery} {k : LogAnswer q → LogCall α}
    (h : Covered nentry evs) (hq : ∀ a, Covers nentry evs (.saw q a))
    (hp : ∀ a evs', Covered nentry evs' → evs ⊆ evs' → .saw q a ∈ evs' → Kept nentry (k a) evs') :
    Kept nentry (.ask q k) evs := by
  apply Always.ask h
  intro a
  apply hp a _ (h.snoc (hq a)) (List.subset_append_left _ _)
  exact List.mem_append_right _ (List.mem_singleton_self _)

theorem fail2_kept (addr : ℕ) (h : Covered nentry evs) : Kept nentry (fail2 addr) evs :=
  kept_tell h fun _ h _ => kept_tell h fun _ h _ => .ret h h

theorem fail1_kept (addr dmaAddr : ℕ) (size : U32) (h : Covered nentry evs) :
    Kept nentry (fail1 addr dmaAddr size) evs := by
  unfold fail1
  by_cases haddr : addr ≠ 0
  · rw [if_pos haddr]
    exact kept_tell h fun _ h _ => fail2_kept addr h
  · rw [if_neg haddr]
    exact fail2_kept addr h

theorem Inside.mono {evs' : List LogEvent} (h : Inside evs new) (hsub : evs ⊆ evs') :
    Inside evs' new := by
  obtain ⟨size, hsize, hinside⟩ := h
  exact ⟨size, hsub hsize, hinside⟩

theorem logBufInit_kept (nssId : ℕ) (h : Covered nentry evs) (hnew : Inside evs new) :
    Kept nentry (logBufInit nssId new) evs := by
  apply kept_tell h
  intro evs' h hsub
  apply kept_ask (q := .debugInterfaceTx nssId new) h fun _ => hnew.mono hsub
  intro sent evs' h _ _
  cases sent with
  | false => exact .ret h h
  | true =>
    apply kept_ask (q := .waitForEvent) h fun _ => trivial
    intro event evs' h _ _
    cases event with
    | false => exact .ret h h
    | true =>
      apply kept_ask (q := .msgResponse) h fun _ => trivial
      exact fun response evs' h _ _ => .ret h h

theorem finishAlloc_kept (nssId : ℕ) (old : Option RingBufferAddr) (h : Covered nentry evs)
    (hnew : Inside evs new) : Kept nentry (finishAlloc nssId new old) evs := by
  apply Always.bind (logBufInit_kept nssId h hnew)
  intro err evs' h
  cases old with
  | some oldRbe =>
    cases err with
    | false =>
      exact kept_tell h fun _ h _ => kept_tell h fun _ h _ => kept_tell h fun _ h _ =>
        kept_tell h fun _ h _ => .ret h h
    | true =>
      exact kept_tell h fun _ h _ => kept_tell h fun _ h _ => fail1_kept _ _ _ h
  | none =>
    cases err with
    | false => exact kept_tell h fun _ h _ => kept_tell h fun _ h _ => .ret h h
    | true =>
      exact kept_tell h fun _ h _ => kept_tell h fun _ h _ => fail1_kept _ _ _ h

end Monitor

section Sizes
variable {nentry : U32} {evs : List LogEvent}

theorem bufferSize_toNat
    (hfit : NSS_LOG_DESCRIPTOR_SIZE.toNat + nentry.toNat * NSS_LOG_ENTRY_SIZE.toNat < 2 ^ 32) :
    (bufferSize nentry).toNat =
      NSS_LOG_DESCRIPTOR_SIZE.toNat + nentry.toNat * NSS_LOG_ENTRY_SIZE.toNat := by
  unfold bufferSize
  rw [BitVec.toNat_add, BitVec.toNat_mul, Nat.mul_comm]
  rw [Nat.mod_eq_of_lt (a := nentry.toNat * NSS_LOG_ENTRY_SIZE.toNat) (by omega)]
  exact Nat.mod_eq_of_lt hfit

theorem inside_of_fit (dmaAddr : ℕ) {addr : ℕ} (hpos : 0 < nentry.toNat)
    (hfit : NSS_LOG_DESCRIPTOR_SIZE.toNat + nentry.toNat * NSS_LOG_ENTRY_SIZE.toNat < 2 ^ 32)
    (hmem : .saw (.kmalloc (bufferSize nentry)) addr ∈ evs) :
    Inside evs ⟨addr, dmaAddr, nentry, 1⟩ := by
  have hindex : ∀ index < nentry.toNat, entryEnd index ≤ (bufferSize nentry).toNat := by
    intro index hlt
    rw [bufferSize_toNat hfit]
    unfold entryEnd
    rw [Nat.mul_comm]
    exact Nat.add_le_add_left (Nat.mul_le_mul_right _ hlt) _
  refine ⟨bufferSize nentry, hmem, hindex, fun lastEntry => hindex _ ?_⟩
  show (lastEntry % nentry).toNat < nentry.toNat
  rw [BitVec.toNat_umod]
  exact Nat.mod_lt _ hpos

theorem alloc_kept (nssId : ℕ) (hpos : 0 < nentry.toNat)
    (hfit : NSS_LOG_DESCRIPTOR_SIZE.toNat + nentry.toNat * NSS_LOG_ENTRY_SIZE.toNat < 2 ^ 32)
    (h : Covered nentry.toNat evs) :
    Kept nentry.toNat (nssDebugLogBufferAlloc nssId nentry) evs := by
  unfold nssDebugLogBufferAlloc
  by_cases hcore : nssId ≥ NSS_MAX_CORES
  · rw [if_pos hcore]
    exact .ret h h
  · rw [if_neg hcore]
    apply kept_ask (q := .coreInitialized nssId) h fun _ => trivial
    intro initialized evs h _ _
    cases initialized with
    | false => exact .ret h h
    | true =>
      have hsize := (bufferSize_toNat hfit).symm.le
      apply kept_ask (q := .kmalloc (bufferSize nentry)) h fun _ => hsize
      intro addr evs h _ hmem
      rw [Call.ret_bind]
      apply Always.ite
      · exact fun _ => .ret h h
      · intro _
        apply kept_ask (q := .dmaMapSingle addr (bufferSize nentry)) h fun _ => hsize
        intro mapped evs h hsub _
        cases mapped with
        | none => exact fail2_kept addr h
        | some dmaAddr =>
          have hinside := inside_of_fit dmaAddr hpos hfit (hsub hmem)
          apply kept_ask (q := .attach nssId ⟨addr, dmaAddr, nentry, 1⟩) h fun _ => hinside
          intro empty evs h hattach _
          cases empty with
          | true => exact finishAlloc_kept nssId none h (hinside.mono hattach)
          | false =>
            apply kept_ask (q := .waitForRefcnt nssId) h fun _ => trivial
            intro woken evs h hwait _
            cases woken with
            | false => exact fail1_kept addr dmaAddr _ h
            | true =>
              have hinside := hinside.mono fun _ he => hwait (hattach he)
              apply kept_ask (q := .reattach nssId ⟨addr, dmaAddr, nentry, 1⟩) h fun _ => hinside
              intro old evs h hreattach _
              cases old with
              | none => exact fail1_kept addr dmaAddr _ h
              | some old => exact finishAlloc_kept nssId (some old) h (hinside.mono hreattach)

theorem allocEach_kept (hpos : 0 < nentry.toNat)
    (hfit : NSS_LOG_DESCRIPTOR_SIZE.toNat + nentry.toNat * NSS_LOG_ENTRY_SIZE.toNat < 2 ^ 32)
    (cores : List ℕ) (h : Covered nentry.toNat evs) :
    Kept nentry.toNat (allocEach nentry cores) evs := by
  induction cores generalizing evs with
  | nil => exact .ret h h
  | cons i rest ih => exact Always.bind (alloc_kept i hpos hfit h) fun _ _ h => ih h

end Sizes

theorem foldl_snoc {α : Type} (xs ys : List α) :
    ys.foldl (fun xs y => xs ++ [y]) xs = xs ++ ys := by
  induction ys generalizing xs with
  | nil => exact (List.append_nil xs).symm
  | cons y ys ih => rw [List.foldl_cons, ih, List.append_assoc, List.singleton_append]

variable {ret : ℤ} {write : Bool} {nssCtlLogbuf : U32}

/-- The count reaches the allocations. -/
def Accepted (ret : ℤ) (write : Bool) (nssCtlLogbuf : U32) : Prop :=
  ret = 0 ∧ write = true ∧ ¬ nssCtlLogbuf.toInt < 32

theorem handler_accepted (h : Accepted ret write nssCtlLogbuf) :
    nssLogbufferHandler ret write nssCtlLogbuf =
      (allocEach nssCtlLogbuf (List.range NSS_MAX_CORES)).bind
        fun _ => .ret (ret, nssCtlLogbuf) := by
  obtain ⟨rfl, rfl, hcount⟩ := h
  unfold nssLogbufferHandler
  rw [if_neg (by decide), if_neg (by decide), if_neg hcount]
  rfl

theorem handler_refused (h : ¬ Accepted ret write nssCtlLogbuf) :
    ∃ a, nssLogbufferHandler ret write nssCtlLogbuf = .ret a := by
  unfold nssLogbufferHandler
  by_cases hret : ret = 0
  · by_cases hwrite : write = true
    · have hcount : nssCtlLogbuf.toInt < 32 := by
        by_contra hcount
        exact h ⟨hret, hwrite, hcount⟩
      refine ⟨(ret, 0), ?_⟩
      rw [if_neg (not_not.mpr hret), hwrite, if_neg (by decide), if_pos hcount]
      rfl
    · refine ⟨(ret, nssCtlLogbuf), ?_⟩
      rw [if_neg (not_not.mpr hret), if_pos (by simpa using hwrite)]
      rfl
  · exact ⟨(ret, nssCtlLogbuf), if_pos hret⟩

theorem accepted_pos (h : Accepted ret write nssCtlLogbuf) : 0 < nssCtlLogbuf.toNat := by
  obtain ⟨-, -, hcount⟩ := h
  by_contra hzero
  have hnull : nssCtlLogbuf = 0 := BitVec.eq_of_toNat_eq (by simpa using hzero)
  apply hcount
  rw [hnull]
  decide

theorem handler_kmalloc (h : Accepted ret write nssCtlLogbuf) :
    Path (nssLogbufferHandler ret write nssCtlLogbuf)
      [.saw (.coreInitialized 0) true, .saw (.kmalloc (bufferSize nssCtlLogbuf)) (1 : ℕ)] none := by
  rw [handler_accepted h]
  exact Path.ask (A := LogAnswer) (q := .coreInitialized 0) true
    (Path.ask (A := LogAnswer) (q := .kmalloc (bufferSize nssCtlLogbuf)) (1 : ℕ) (.stop _))

/-- All that a write to the sysctl allocates, maps and announces has room for its
    entries exactly if the size does not overflow. -/
theorem handler_covered (ret : ℤ) (write : Bool) (nssCtlLogbuf : U32) :
    (∀ evs r, Path (nssLogbufferHandler ret write nssCtlLogbuf) evs r →
        Covered nssCtlLogbuf.toNat evs) ↔
      (Accepted ret write nssCtlLogbuf → NSS_LOG_DESCRIPTOR_SIZE.toNat +
        nssCtlLogbuf.toNat * NSS_LOG_ENTRY_SIZE.toNat < 2 ^ 32) := by
  constructor
  · intro h haccepted
    have hcovered := h _ _ (handler_kmalloc haccepted) _
      (List.mem_cons_of_mem _ (List.mem_cons_self ..))
    exact Nat.lt_of_le_of_lt hcovered (bufferSize nssCtlLogbuf).isLt
  · intro hfit evs r hpath
    have hempty : Covered nssCtlLogbuf.toNat [] := fun e he => absurd he List.not_mem_nil
    have hkept : Kept nssCtlLogbuf.toNat (nssLogbufferHandler ret write nssCtlLogbuf) [] := by
      by_cases haccepted : Accepted ret write nssCtlLogbuf
      · rw [handler_accepted haccepted]
        apply Always.bind (allocEach_kept (accepted_pos haccepted) (hfit haccepted) _ hempty)
        exact fun _ _ h => .ret h h
      · obtain ⟨a, ha⟩ := handler_refused haccepted
        rw [ha]
        exact .ret hempty hempty
    have hcovered := (hkept.path hpath).1
    rwa [foldl_snoc] at hcovered

/-- The size of 26843546 entries comes out as 96 bytes. -/
theorem handler_overflows : ¬ ∀ nssCtlLogbuf : U32, 32 ≤ nssCtlLogbuf.toInt → ∀ evs r,
    Path (nssLogbufferHandler 0 true nssCtlLogbuf) evs r → Covered nssCtlLogbuf.toNat evs := by
  intro h
  have haccepted : Accepted 0 true 26843546 := ⟨rfl, rfl, by decide⟩
  have hcovered := h 26843546 (by decide) _ _ (handler_kmalloc haccepted) _
    (List.mem_cons_of_mem _ (List.mem_cons_self ..))
  exact absurd hcovered (by unfold Covers; decide)

end NssDrv.LogSizes
