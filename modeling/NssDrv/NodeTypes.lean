import Mathlib.Data.List.Induction
import NssDrv.HandlerAssertions

set_option autoImplicit false

/-!
# The types of dynamic interfaces

The table `di.type[]` against the messages that the firmware has sent. The
handler only writes it, and the number that it writes at is theirs.
-/
namespace NssDrv.NodeTypes
open CommonMessage DynamicInterface HandlerAssertions

def NSS_DYNAMIC_INTERFACE_DEALLOC_NODE : ℕ := 1
def NSS_MAX_DYNAMIC_INTERFACES : ℤ := 64

/-- The assignments to `di.type[]`, with their indexes. -/
def typeWrites (ncm : InterfaceMsg) : List (ℤ × ℕ) :=
  if ncm.type ≥ NSS_DYNAMIC_INTERFACE_MAX then []
  else if ncm.fits = false then []
  else if ncm.response ≠ .NSS_CMN_RESPONSE_ACK then []
  else if ncm.type = NSS_DYNAMIC_INTERFACE_ALLOC_NODE then
    if ncm.ifNum > 0 then [(ncm.ifNum - NSS_DYNAMIC_IF_START, ncm.nodeType)] else []
  else [(ncm.ifNum - NSS_DYNAMIC_IF_START, NSS_DYNAMIC_INTERFACE_TYPE_NONE)]

def write (type : ℤ → ℕ) (w : ℤ × ℕ) : ℤ → ℕ := Function.update type w.1 w.2

theorem handler_writes (ncm : InterfaceMsg) (di : Di) :
    (HandlerAssertions.nssDynamicInterfaceHandler ncm di).type =
      (typeWrites ncm).foldl write di.type := by
  unfold HandlerAssertions.nssDynamicInterfaceHandler typeWrites
  by_cases hmax : ncm.type ≥ NSS_DYNAMIC_INTERFACE_MAX
  · rw [if_pos hmax, if_pos hmax]
    rfl
  rw [if_neg hmax, if_neg hmax]
  by_cases hfits : ncm.fits = false
  · rw [if_pos hfits, if_pos hfits]
    rfl
  rw [if_neg hfits, if_neg hfits]
  by_cases hack : ncm.response = .NSS_CMN_RESPONSE_ACK
  · rw [if_neg (not_not_intro hack)]
    by_cases halloc : ncm.type = NSS_DYNAMIC_INTERFACE_ALLOC_NODE
    · by_cases hpos : ncm.ifNum > 0
      · simp [DynamicInterface.nssDynamicInterfaceHandler, hack, halloc, hpos, write]
      · simp [DynamicInterface.nssDynamicInterfaceHandler, hack, halloc, hpos]
    · simp [DynamicInterface.nssDynamicInterfaceHandler, hack, halloc, write]
  · rw [if_pos hack]
    by_cases halloc : ncm.type = NSS_DYNAMIC_INTERFACE_ALLOC_NODE
    · simp [DynamicInterface.nssDynamicInterfaceHandler, hack, halloc]
    · simp [DynamicInterface.nssDynamicInterfaceHandler, hack, halloc]

/-- The firmware says that it has allocated the node. -/
def AckedAlloc (ncm : InterfaceMsg) (n : ℤ) : Prop :=
  ncm.type = NSS_DYNAMIC_INTERFACE_ALLOC_NODE ∧ ncm.fits = true ∧
    ncm.response = .NSS_CMN_RESPONSE_ACK ∧ ncm.ifNum = n

def AckedDealloc (ncm : InterfaceMsg) (n : ℤ) : Prop :=
  ncm.type = NSS_DYNAMIC_INTERFACE_DEALLOC_NODE ∧ ncm.fits = true ∧
    ncm.response = .NSS_CMN_RESPONSE_ACK ∧ ncm.ifNum = n

/-- The last word on the node was its allocation. -/
def Allocated (n : ℤ) (type : ℕ) (msgs : List InterfaceMsg) : Prop :=
  ∃ front ncm back, msgs = front ++ ncm :: back ∧ AckedAlloc ncm n ∧ ncm.nodeType = type ∧
    ∀ m ∈ back, ¬ AckedAlloc m n ∧ ¬ AckedDealloc m n

/-- The type of the node after the messages. -/
def Recorded (n : ℤ) (msgs : List InterfaceMsg) (type : ℕ) : Prop :=
  Allocated n type msgs ∨
    type = NSS_DYNAMIC_INTERFACE_TYPE_NONE ∧ ∀ type', ¬ Allocated n type' msgs

def blankDi : Di := ⟨-1, .NSS_CMN_RESPONSE_ACK, fun _ => NSS_DYNAMIC_INTERFACE_TYPE_NONE⟩

def run (msgs : List InterfaceMsg) : Di :=
  msgs.foldl (fun di ncm => HandlerAssertions.nssDynamicInterfaceHandler ncm di) blankDi

/-- The table was only used inside, and says what the messages said. -/
structure Tracks (msgs : List InterfaceMsg) : Prop where
  inside : ∀ ncm ∈ msgs, ∀ w ∈ typeWrites ncm, 0 ≤ w.1 ∧ w.1 < NSS_MAX_DYNAMIC_INTERFACES
  types : ∀ n, Recorded n msgs (nssDynamicInterfaceGetType (run msgs) n)

/-- A node that the firmware names is one, except that it may allocate nothing
    under a number that is not positive. -/
structure Numbered (ncm : InterfaceMsg) : Prop where
  alloc : ∀ n, AckedAlloc ncm n → nssIsDynamicInterface n = true ∨
    n ≤ 0 ∧ ncm.nodeType = NSS_DYNAMIC_INTERFACE_TYPE_NONE
  dealloc : ∀ n, AckedDealloc ncm n → nssIsDynamicInterface n = true

variable {ncm m : InterfaceMsg} {msgs : List InterfaceMsg} {n : ℤ} {type : ℕ}

theorem isDynamic_iff : nssIsDynamicInterface n = true ↔
    0 ≤ n - NSS_DYNAMIC_IF_START ∧ n - NSS_DYNAMIC_IF_START < NSS_MAX_DYNAMIC_INTERFACES := by
  unfold nssIsDynamicInterface NSS_DYNAMIC_IF_START NSS_SPECIAL_IF_START
    NSS_MAX_DYNAMIC_INTERFACES
  rw [Bool.and_eq_true, decide_eq_true_iff, decide_eq_true_iff]
  omega

theorem writes_alloc (h : AckedAlloc ncm n) : typeWrites ncm =
    if n > 0 then [(n - NSS_DYNAMIC_IF_START, ncm.nodeType)] else [] := by
  obtain ⟨htype, hfits, hack, rfl⟩ := h
  simp [typeWrites, htype, hfits, hack, NSS_DYNAMIC_INTERFACE_ALLOC_NODE,
    NSS_DYNAMIC_INTERFACE_MAX]

theorem writes_dealloc (h : AckedDealloc ncm n) : typeWrites ncm =
    [(n - NSS_DYNAMIC_IF_START, NSS_DYNAMIC_INTERFACE_TYPE_NONE)] := by
  obtain ⟨htype, hfits, hack, rfl⟩ := h
  simp [typeWrites, htype, hfits, hack, NSS_DYNAMIC_INTERFACE_ALLOC_NODE,
    NSS_DYNAMIC_INTERFACE_DEALLOC_NODE, NSS_DYNAMIC_INTERFACE_MAX]

theorem writes_other (halloc : ¬ AckedAlloc ncm ncm.ifNum) (hdealloc : ¬ AckedDealloc ncm ncm.ifNum) :
    typeWrites ncm = [] := by
  unfold typeWrites
  by_cases hmax : ncm.type ≥ NSS_DYNAMIC_INTERFACE_MAX
  · rw [if_pos hmax]
  rw [if_neg hmax]
  by_cases hfits : ncm.fits = false
  · rw [if_pos hfits]
  rw [if_neg hfits]
  by_cases hack : ncm.response = .NSS_CMN_RESPONSE_ACK
  · rw [Bool.not_eq_false] at hfits
    have htype : ncm.type = 0 ∨ ncm.type = 1 := by
      rw [NSS_DYNAMIC_INTERFACE_MAX] at hmax
      omega
    rcases htype with htype | htype
    · exact absurd ⟨htype, hfits, hack, rfl⟩ halloc
    · exact absurd ⟨htype, hfits, hack, rfl⟩ hdealloc
  · rw [if_pos hack]

theorem alloc_not_dealloc (h : AckedAlloc ncm n) (h' : AckedDealloc ncm n) : False :=
  absurd (h.1.symm.trans h'.1) (by decide)

theorem getType_handler (di : Di) (hm : Numbered m) (n : ℤ) :
    (AckedAlloc m n → nssDynamicInterfaceGetType
      (HandlerAssertions.nssDynamicInterfaceHandler m di) n = m.nodeType) ∧
    (AckedDealloc m n → nssDynamicInterfaceGetType
      (HandlerAssertions.nssDynamicInterfaceHandler m di) n = NSS_DYNAMIC_INTERFACE_TYPE_NONE) ∧
    (¬ AckedAlloc m n → ¬ AckedDealloc m n → nssDynamicInterfaceGetType
      (HandlerAssertions.nssDynamicInterfaceHandler m di) n = nssDynamicInterfaceGetType di n) := by
  unfold nssDynamicInterfaceGetType
  rw [handler_writes]
  by_cases hdyn : nssIsDynamicInterface n = true
  · rw [if_neg (by simp [hdyn]), if_neg (by simp [hdyn])]
    have hpos : n > 0 := by
      rw [isDynamic_iff, NSS_DYNAMIC_IF_START] at hdyn
      omega
    refine ⟨fun h => ?_, fun h => ?_, fun hna hnd => ?_⟩
    · rw [writes_alloc h, if_pos hpos]
      exact Function.update_self _ _ _
    · rw [writes_dealloc h]
      exact Function.update_self _ _ _
    · by_cases halloc : AckedAlloc m m.ifNum
      · have hne : n ≠ m.ifNum := fun h => hna (h ▸ halloc)
        rw [writes_alloc halloc]
        split
        · exact Function.update_of_ne (fun h => hne (Int.sub_left_inj _ |>.mp h)) _ _
        · rfl
      · by_cases hdealloc : AckedDealloc m m.ifNum
        · have hne : n ≠ m.ifNum := fun h => hnd (h ▸ hdealloc)
          rw [writes_dealloc hdealloc]
          exact Function.update_of_ne (fun h => hne (Int.sub_left_inj _ |>.mp h)) _ _
        · rw [writes_other halloc hdealloc]
          rfl
  · have hfalse := Bool.eq_false_iff.mpr hdyn
    rw [if_pos hfalse, if_pos hfalse]
    refine ⟨fun h => ?_, fun _ => rfl, fun _ _ => rfl⟩
    rcases hm.alloc n h with hyes | ⟨-, hnone⟩
    · exact absurd hyes hdyn
    · exact hnone.symm

theorem run_snoc (msgs : List InterfaceMsg) (m : InterfaceMsg) :
    run (msgs ++ [m]) = HandlerAssertions.nssDynamicInterfaceHandler m (run msgs) :=
  List.foldl_concat _ _ _ _

theorem allocated_snoc_alloc (h : AckedAlloc m n) : Allocated n type (msgs ++ [m]) ↔
    m.nodeType = type := by
  refine ⟨fun ⟨front, ncm, back, hsplit, _, htype, hback⟩ => ?_, fun htype => ?_⟩
  · rcases List.eq_nil_or_concat back with rfl | ⟨back, last, rfl⟩
    · obtain ⟨-, hlast⟩ := List.append_inj' hsplit rfl
      rw [(List.cons.inj hlast).1]
      exact htype
    · rw [List.concat_eq_append, ← List.cons_append, ← List.append_assoc] at hsplit
      obtain ⟨-, hlast⟩ := List.append_inj' hsplit rfl
      obtain rfl := (List.cons.inj hlast).1
      exact absurd h (hback m (by simp)).1
  · exact ⟨msgs, m, [], rfl, h, htype, nofun⟩

theorem not_allocated_snoc_dealloc (h : AckedDealloc m n) : ¬ Allocated n type (msgs ++ [m]) := by
  rintro ⟨front, ncm, back, hsplit, halloc, _, hback⟩
  rcases List.eq_nil_or_concat back with rfl | ⟨back, last, rfl⟩
  · obtain ⟨-, hlast⟩ := List.append_inj' hsplit rfl
    rw [(List.cons.inj hlast).1] at h
    exact alloc_not_dealloc halloc h
  · rw [List.concat_eq_append, ← List.cons_append, ← List.append_assoc] at hsplit
    obtain ⟨-, hlast⟩ := List.append_inj' hsplit rfl
    obtain rfl := (List.cons.inj hlast).1
    exact (hback m (by simp)).2 h

theorem allocated_snoc_other (hna : ¬ AckedAlloc m n) (hnd : ¬ AckedDealloc m n) :
    Allocated n type (msgs ++ [m]) ↔ Allocated n type msgs := by
  refine ⟨fun ⟨front, ncm, back, hsplit, halloc, htype, hback⟩ => ?_,
    fun ⟨front, ncm, back, hsplit, halloc, htype, hback⟩ => ?_⟩
  · rcases List.eq_nil_or_concat back with rfl | ⟨back, last, rfl⟩
    · obtain ⟨-, hlast⟩ := List.append_inj' hsplit rfl
      rw [(List.cons.inj hlast).1] at hna
      exact absurd halloc hna
    · rw [List.concat_eq_append, ← List.cons_append, ← List.append_assoc] at hsplit
      obtain ⟨hmsgs, -⟩ := List.append_inj' hsplit rfl
      exact ⟨front, ncm, back, hmsgs, halloc, htype, fun x hx => hback x (by simp [hx])⟩
  · refine ⟨front, ncm, back ++ [m], by simp [hsplit], halloc, htype, fun x hx => ?_⟩
    rcases List.mem_append.mp hx with hx | hx
    · exact hback x hx
    · obtain rfl := List.mem_singleton.mp hx
      exact ⟨hna, hnd⟩

theorem recorded_snoc (hm : Numbered m)
    (h : Recorded n msgs (nssDynamicInterfaceGetType (run msgs) n)) :
    Recorded n (msgs ++ [m]) (nssDynamicInterfaceGetType (run (msgs ++ [m])) n) := by
  rw [run_snoc]
  obtain ⟨halloc, hdealloc, hother⟩ := getType_handler (run msgs) hm n
  by_cases hna : AckedAlloc m n
  · rw [halloc hna]
    exact .inl ((allocated_snoc_alloc hna).mpr rfl)
  by_cases hnd : AckedDealloc m n
  · rw [hdealloc hnd]
    exact .inr ⟨rfl, fun _ => not_allocated_snoc_dealloc hnd⟩
  rw [hother hna hnd]
  rcases h with hyes | ⟨hnone, hno⟩
  · exact .inl ((allocated_snoc_other hna hnd).mpr hyes)
  · exact .inr ⟨hnone, fun type' h' => hno type' ((allocated_snoc_other hna hnd).mp h')⟩

theorem Numbered.inside (hm : Numbered m) :
    ∀ w ∈ typeWrites m, 0 ≤ w.1 ∧ w.1 < NSS_MAX_DYNAMIC_INTERFACES := by
  intro w hw
  by_cases halloc : AckedAlloc m m.ifNum
  · rw [writes_alloc halloc] at hw
    split at hw
    · rename_i hpos
      obtain rfl := List.mem_singleton.mp hw
      rcases hm.alloc _ halloc with hyes | ⟨hle, -⟩
      · exact isDynamic_iff.mp hyes
      · exact absurd hpos (Int.not_lt.mpr hle)
    · cases hw
  by_cases hdealloc : AckedDealloc m m.ifNum
  · rw [writes_dealloc hdealloc] at hw
    obtain rfl := List.mem_singleton.mp hw
    exact isDynamic_iff.mp (hm.dealloc _ hdealloc)
  · rw [writes_other halloc hdealloc] at hw
    cases hw

theorem tracks_of_numbered (h : ∀ m ∈ msgs, Numbered m) : Tracks msgs := by
  induction msgs using List.reverseRecOn with
  | nil =>
    refine ⟨nofun, fun n => .inr ⟨?_, ?_⟩⟩
    · unfold nssDynamicInterfaceGetType
      split <;> rfl
    · rintro type' ⟨front, ncm, back, hsplit, _⟩
      simp at hsplit
  | append_singleton msgs m ih =>
    have hmsgs := ih fun x hx => h x (List.mem_append_left _ hx)
    have hm := h m (by simp)
    refine ⟨fun x hx => ?_, fun n => recorded_snoc hm (hmsgs.types n)⟩
    rcases List.mem_append.mp hx with hx | hx
    · exact hmsgs.inside x hx
    · obtain rfl := List.mem_singleton.mp hx
      exact hm.inside

/-- After every message the table was only used inside and is right, if and
    only if the messages name dynamic interfaces. -/
theorem tracks_iff_numbered (msgs : List InterfaceMsg) :
    (∀ pre, pre <+: msgs → Tracks pre) ↔ ∀ ncm ∈ msgs, Numbered ncm := by
  refine ⟨fun h m hm => ?_, fun h pre hpre => ?_⟩
  · obtain ⟨front, back, rfl⟩ := List.append_of_mem hm
    have htracks := h (front ++ [m]) ⟨back, by simp⟩
    have hinside := htracks.inside m (by simp)
    constructor
    · intro n hn
      by_cases hpos : n > 0
      · rw [writes_alloc hn, if_pos hpos] at hinside
        exact .inl (isDynamic_iff.mpr (hinside _ List.mem_cons_self))
      · refine .inr ⟨Int.not_lt.mp hpos, ?_⟩
        have hnone : nssDynamicInterfaceGetType (run (front ++ [m])) n =
            NSS_DYNAMIC_INTERFACE_TYPE_NONE := by
          apply if_pos
          apply Bool.eq_false_iff.mpr
          rw [Ne, isDynamic_iff, NSS_DYNAMIC_IF_START]
          omega
        have htype := htracks.types n
        rw [hnone] at htype
        rcases htype with hyes | ⟨-, hno⟩
        · exact (allocated_snoc_alloc hn).mp hyes
        · exact absurd ((allocated_snoc_alloc hn).mpr rfl) (hno m.nodeType)
    · intro n hn
      rw [writes_dealloc hn] at hinside
      exact isDynamic_iff.mpr (hinside _ List.mem_cons_self)
  · exact tracks_of_numbered fun m hm => h m (hpre.subset hm)

/-- An allocation is acknowledged with the number of a physical interface. -/
def physicalNode : InterfaceMsg := { acknowledged NSS_DYNAMIC_INTERFACE with ifNum := 2 }

theorem tracks_not : ¬ Tracks [physicalNode] := by
  intro h
  have hwrite : ((-22 : ℤ), NSS_DYNAMIC_INTERFACE_TYPE_DTLS) ∈ typeWrites physicalNode := by decide
  exact absurd (h.inside _ List.mem_cons_self _ hwrite).1 (by decide)

end NssDrv.NodeTypes
