import NssDrv.PhysIfMtu

set_option autoImplicit false

/-!
# The size of the empty buffers

What a refill finds in `max_buf_size`, and what its copy is worth while it fills, after
any history of the physical interfaces.
-/
namespace NssDrv.BufferSizes
open HlosInterface SharedThread ThreadPool TransitionRuns CyclicIndex DescriptorRing TransmitApi
open PhysIfMtu

section Classes
variable {c : Core} {n : PhysIf}

def Limited (c : Core) : Prop := ∀ n, (c.physIfMtu n).toNat ≤ NSS_GMAC_FULL_JUMBO_FRAME_MTU.toNat

theorem le_foldl_max (f : PhysIf → U16) (l : List PhysIf) (m : U16) :
    m.toNat ≤ (l.foldl (fun m i => if m < f i then f i else m) m).toNat ∧
      ∀ i ∈ l, (f i).toNat ≤ (l.foldl (fun m i => if m < f i then f i else m) m).toNat := by
  induction l generalizing m with
  | nil => exact ⟨Nat.le_refl _, nofun⟩
  | cons i l ih =>
    rw [List.foldl_cons]
    by_cases hlt : m < f i
    · rw [if_pos hlt]
      obtain ⟨hm, hl⟩ := ih (f i)
      exact ⟨(Nat.le_of_lt hlt).trans hm, List.forall_mem_cons.mpr ⟨hm, hl⟩⟩
    · rw [if_neg hlt]
      obtain ⟨hm, hl⟩ := ih m
      exact ⟨hm, List.forall_mem_cons.mpr ⟨(Nat.not_lt.mp hlt).trans hm, hl⟩⟩

theorem foldl_max_le {f : PhysIf → U16} {x : ℕ} (hf : ∀ i, (f i).toNat ≤ x) (l : List PhysIf)
    {m : U16} (hm : m.toNat ≤ x) :
    (l.foldl (fun m i => if m < f i then f i else m) m).toNat ≤ x := by
  induction l generalizing m with
  | nil => exact hm
  | cons i l ih =>
    rw [List.foldl_cons]
    by_cases hlt : m < f i
    · rw [if_pos hlt]
      exact ih (hf i)
    · rw [if_neg hlt]
      exact ih hm

def IsClass (mtuSz : U16) : Prop :=
  mtuSz = NSS_GMAC_NORMAL_FRAME_MTU ∨ mtuSz = NSS_GMAC_MINI_JUMBO_FRAME_MTU ∨
    mtuSz = NSS_GMAC_FULL_JUMBO_FRAME_MTU

theorem mtuSz_isClass (c : Core) : IsClass (nssPhysIfGetMtuSz c) := by
  unfold nssPhysIfGetMtuSz IsClass
  dsimp only
  split
  · exact .inl rfl
  · split
    · exact .inr (.inl rfl)
    · split
      · exact .inr (.inr rfl)
      · exact .inl rfl

theorem mtuSz_le {mtuSz : U16} (hclass : IsClass mtuSz)
    (h : ∀ n, (c.physIfMtu n).toNat ≤ mtuSz.toNat) :
    (nssPhysIfGetMtuSz c).toNat ≤ mtuSz.toNat := by
  have hmax := foldl_max_le h [1, 2, 3] (h 0)
  have hleast : (NSS_GMAC_NORMAL_FRAME_MTU).toNat ≤ mtuSz.toNat := by
    rcases hclass with rfl | rfl | rfl <;> decide
  unfold nssPhysIfGetMtuSz
  dsimp only
  split
  · exact hleast
  · rename_i hnormal
    have hnormal := Nat.lt_of_not_le hnormal
    split
    · rcases hclass with rfl | rfl | rfl
      · exact absurd hmax (Nat.not_le.mpr hnormal)
      · exact Nat.le_refl _
      · decide
    · rename_i hmini
      have hmini := Nat.lt_of_not_le hmini
      split
      · rcases hclass with rfl | rfl | rfl
        · exact absurd hmax (Nat.not_le.mpr hnormal)
        · exact absurd hmax (Nat.not_le.mpr hmini)
        · exact Nat.le_refl _
      · exact hleast

theorem le_mtuSz (h : Limited c) (n : PhysIf) :
    (c.physIfMtu n).toNat ≤ (nssPhysIfGetMtuSz c).toNat := by
  obtain ⟨hzero, hrest⟩ := le_foldl_max c.physIfMtu [1, 2, 3] (c.physIfMtu 0)
  have hmax := foldl_max_le h [1, 2, 3] (h 0)
  have hn : (c.physIfMtu n).toNat ≤ ([1, 2, 3].foldl
      (fun m i => if m < c.physIfMtu i then c.physIfMtu i else m) (c.physIfMtu 0)).toNat := by
    match n with
    | 0 => exact hzero
    | 1 => exact hrest 1 (by decide)
    | 2 => exact hrest 2 (by decide)
    | 3 => exact hrest 3 (by decide)
  unfold nssPhysIfGetMtuSz
  dsimp only
  split
  · rename_i hclass
    exact hn.trans hclass
  · split
    · rename_i hclass
      exact hn.trans hclass
    · rw [if_pos (BitVec.le_def.mpr hmax)]
      exact hn.trans hmax

end Classes

/-- `x` rounded up to a multiple of a power of two. -/
theorem align_toNat {x c : U32} {k : ℕ} (hk : k < 32) (hc : c.toNat = 2 ^ k)
    (hx : x.toNat + 2 ^ k < 2 ^ 32) :
    x.toNat ≤ ((x + c - 1) &&& ~~~(c - 1)).toNat ∧
      ((x + c - 1) &&& ~~~(c - 1)).toNat < x.toNat + 2 ^ k := by
  have hpos := Nat.two_pow_pos k
  have hsum : (x + c).toNat = x.toNat + 2 ^ k := by
    rw [BitVec.toNat_add_of_lt (by omega), hc]
  have hsub : (x + c - 1).toNat = x.toNat + 2 ^ k - 1 := by
    rw [BitVec.toNat_sub_of_le, hsum]
    · rfl
    · rw [BitVec.le_def, hsum]
      exact hpos.trans_le (Nat.le_add_left _ _)
  have hlow : ((x + c - 1) &&& (c - 1)).toNat = (x.toNat + 2 ^ k - 1) % 2 ^ k := by
    rw [and_mask _ _ (mask_toNat hk hc), hsub]
  have hdisjoint : ((x + c - 1) &&& (c - 1)) &&& ((x + c - 1) &&& ~~~(c - 1)) = 0 := by
    ext i hi
    simp
    intros
    assumption
  have hsplit : ((x + c - 1) &&& (c - 1)) + ((x + c - 1) &&& ~~~(c - 1)) = x + c - 1 := by
    rw [BitVec.add_eq_or_of_and_eq_zero _ _ hdisjoint]
    ext i hi
    simp only [BitVec.getElem_or, BitVec.getElem_and, BitVec.getElem_not]
    cases (x + c - 1)[i] <;> cases (c - 1)[i] <;> rfl
  have htotal := BitVec.toNat_add_of_and_eq_zero hdisjoint
  rw [hsplit, hsub, hlow] at htotal
  have hmod := Nat.mod_lt (x.toNat + 2 ^ k - 1) hpos
  omega

section Sizes
variable {b : Build} {c : Core} {mtuSz : U16}

/-- A size with room for the largest frame of the core, its Ethernet header and the
    driver's padding, not below the default, that 16 bits hold together with the
    headroom of an skb. -/
structure Ample (b : Build) (c : Core) (size : ℕ) : Prop where
  frame : ∀ n, (c.physIfMtu n).toNat + ETH_HLEN.toNat + NSS_NBUF_PAD_EXTRA.toNat ≤ size
  payload : b.payloadSize.toNat ≤ size
  small : size + b.netSkbPad.toNat < 2 ^ 16

/-- The size of the core and that of the refill were ample, and it mapped all of it. -/
structure Sufficient (b : Build) (r : Refill) : Prop where
  found : Ample b r.core r.core.maxBufSize.toNat
  taken : Ample b r.core r.maxBufSize.toNat
  whole : r.bufferLen.toNat = r.maxBufSize.toNat + b.netSkbPad.toNat

/-- Room for all frames of the class of the core. -/
structure Framed (b : Build) (c : Core) (size : ℕ) : Prop where
  room : (nssPhysIfGetMtuSz c).toNat + ETH_HLEN.toNat + NSS_NBUF_PAD_EXTRA.toNat ≤ size
  small : size + b.netSkbPad.toNat < 2 ^ 16

structure Roomy (b : Build) (c : Core) (size : ℕ) : Prop extends Framed b c size where
  payload : b.payloadSize.toNat ≤ size

theorem Roomy.ample {size : ℕ} (h : Roomy b c size) (hlimited : Limited c) : Ample b c size where
  frame n := by
    have hn := le_mtuSz hlimited n
    have hroom := h.room
    omega
  payload := h.payload
  small := h.small

theorem Roomy.mono {size : ℕ} {c' : Core} (h : Roomy b c size)
    (hle : (nssPhysIfGetMtuSz c').toNat ≤ (nssPhysIfGetMtuSz c).toNat) : Roomy b c' size where
  room := by
    have hroom := h.room
    omega
  small := h.small
  payload := h.payload

theorem isClass_le (h : IsClass mtuSz) : 1500 ≤ mtuSz.toNat ∧ mtuSz.toNat ≤ 9600 := by
  rcases h with rfl | rfl | rfl
  · decide
  · decide
  · decide

theorem alignedBufSize_toNat (h : IsClass mtuSz) :
    mtuSz.toNat + 14 + 256 ≤ (alignedBufSize b mtuSz).toNat ∧
      (alignedBufSize b mtuSz).toNat < mtuSz.toNat + 14 + 256 + 128 := by
  obtain ⟨-, hle⟩ := isClass_le h
  obtain ⟨k, hk, hcache⟩ := b.cache
  have hpow : 2 ^ k ≤ 2 ^ 7 := Nat.pow_le_pow_right (by decide) hk
  have hframe : (mtuSz.setWidth 32 + ETH_HLEN).toNat = mtuSz.toNat + 14 := by
    have hhead : (ETH_HLEN).toNat = 14 := rfl
    rw [BitVec.toNat_add_of_lt] <;> rw [word_toNat, hhead]
    omega
  have halign := align_toNat (by omega : k < 32) hcache (by rw [hframe]; omega)
  rw [hframe] at halign
  have hpad : (NSS_NBUF_PAD_EXTRA).toNat = 256 := rfl
  unfold alignedBufSize
  rw [BitVec.toNat_add_of_lt] <;> rw [hpad] <;> omega

theorem payload_toNat (b : Build) : 1770 ≤ b.payloadSize.toNat ∧ b.payloadSize.toNat ≤ 1984 := by
  rcases b.payload with h | h
  · rw [h]
    decide
  · rw [h]
    decide

theorem framed_of_class (c : Core) :
    Framed b { c with maxBufSize := alignedBufSize b (nssPhysIfGetMtuSz c) }
      (alignedBufSize b (nssPhysIfGetMtuSz c)).toNat := by
  have hclass := mtuSz_isClass c
  obtain ⟨-, hle⟩ := isClass_le hclass
  obtain ⟨hroom, hsmall⟩ := alignedBufSize_toNat (b := b) hclass
  have hpad := b.pad
  exact ⟨hroom, by omega⟩

theorem roomy_of_payload {size : U32} (h : Framed b c size.toNat) (hless : size < b.payloadSize) :
    Roomy b { c with maxBufSize := b.payloadSize } b.payloadSize.toNat := by
  obtain ⟨-, hpayload⟩ := payload_toNat b
  have hless' : size.toNat < b.payloadSize.toNat := hless
  have hpad := b.pad
  exact ⟨⟨h.room.trans hless'.le, by omega⟩, Nat.le_refl _⟩

theorem mtuSz_setMtu_le (h : Limited c) (n : PhysIf) {mtu : U16} (hmtu : mtu.toNat ≤ 1500) :
    (nssPhysIfGetMtuSz { c with physIfMtu := Function.update c.physIfMtu n mtu }).toNat ≤
      (nssPhysIfGetMtuSz c).toNat := by
  have hclass := mtuSz_isClass c
  apply mtuSz_le hclass
  intro m
  by_cases hm : m = n
  · subst hm
    dsimp only
    rw [Function.update_self]
    exact hmtu.trans (isClass_le hclass).1
  · dsimp only
    rw [Function.update_of_ne hm]
    exact le_mtuSz h m

theorem Limited.setMtu (h : Limited c) (n : PhysIf) {mtu : U16} (hmtu : mtu.toNat ≤ 9600) :
    Limited { c with physIfMtu := Function.update c.physIfMtu n mtu } := by
  intro m
  by_cases hm : m = n
  · subst hm
    dsimp only
    rw [Function.update_self]
    exact hmtu
  · dsimp only
    rw [Function.update_of_ne hm]
    exact h m

end Sizes

/-- What every state of a run has: sizes are roomy but on the core that a change is about to
    store, the copies of refills under way are, and those of all buffers were ample. -/
structure Sized (b : Build) (d : PhysIfTop) : Prop where
  limited : ∀ k, Limited (d.core k)
  roomy : ∀ k, d.settling ≠ some k → Roomy b (d.core k) (d.core k).maxBufSize.toNat
  loaded : ∀ l ∈ d.loaded, l.outgrown = false → Roomy b (d.core l.core) l.maxBufSize.toNat
  refills : ∀ r ∈ d.refills, Sufficient b r

section Steps
variable {b : Build} {d d' : PhysIfTop} {k : CoreId}

theorem onCore_self (f : Core → Core) : (d.onCore k f).core k = f (d.core k) :=
  Function.update_self k _ d.core

theorem onCore_of_ne {j : CoreId} (f : Core → Core) (hj : j ≠ k) :
    (d.onCore k f).core j = d.core j :=
  Function.update_of_ne hj _ d.core

theorem Sized.onCore {f : Core → Core} (h : Sized b d) (hlimited : Limited (f (d.core k)))
    (hclass : (nssPhysIfGetMtuSz (f (d.core k))).toNat ≤ (nssPhysIfGetMtuSz (d.core k)).toNat)
    (hroomy : d.settling ≠ some k → Roomy b (f (d.core k)) (f (d.core k)).maxBufSize.toNat) :
    Sized b (d.onCore k f) := by
  refine ⟨?_, ?_, ?_, h.refills⟩
  · intro j
    by_cases hj : j = k
    · subst hj
      rw [onCore_self]
      exact hlimited
    · rw [onCore_of_ne f hj]
      exact h.limited j
  · intro j hset
    by_cases hj : j = k
    · subst hj
      rw [onCore_self]
      exact hroomy hset
    · rw [onCore_of_ne f hj]
      exact h.roomy j hset
  · intro l hl hkept
    have hroomy := h.loaded l hl hkept
    by_cases hj : l.core = k
    · rw [hj] at hroomy ⊢
      rw [onCore_self]
      exact hroomy.mono hclass
    · rw [onCore_of_ne f hj]
      exact hroomy

theorem Sized.log (h : Sized b d) (x : Done) : Sized b (d.log x) := { h with }

/-- The core of the change goes out of the invariant, with the refills that its new class
    outgrows. -/
theorem Sized.change {n : PhysIf} {mtu : U16} (h : Sized b d) (hquiet : d.settling = none)
    (hmtu : mtu.toNat ≤ 9600) : Sized b (d.change k n mtu) := by
  have hself : (d.change k n mtu).core k =
      { d.core k with physIfMtu := Function.update (d.core k).physIfMtu n mtu } :=
    onCore_self (d := d.begin k) fun c => { c with physIfMtu := Function.update c.physIfMtu n mtu }
  have hother : ∀ j, j ≠ k → (d.change k n mtu).core j = d.core j :=
    fun j hj => onCore_of_ne (d := d.begin k)
      (fun c => { c with physIfMtu := Function.update c.physIfMtu n mtu }) hj
  refine ⟨?_, ?_, ?_, h.refills⟩
  · intro j
    by_cases hj : j = k
    · rw [hj, hself]
      exact (h.limited k).setMtu n hmtu
    · rw [hother j hj]
      exact h.limited j
  · intro j hset
    have hj : j ≠ k := fun hj => hset (congrArg some hj.symm)
    rw [hother j hj]
    exact h.roomy j (by rw [hquiet]; exact (Option.some_ne_none j).symm)
  · intro l hl hkept
    obtain ⟨l', hl', rfl⟩ := List.mem_map.mp hl
    obtain ⟨hbefore, hraised⟩ := Bool.or_eq_false_iff.mp hkept
    have hroomy := h.loaded l' hl' hbefore
    change Roomy b ((d.change k n mtu).core l'.core) l'.maxBufSize.toNat
    by_cases hj : l'.core = k
    · rw [decide_eq_true hj, Bool.true_and, decide_eq_false_iff_not] at hraised
      rw [hj] at hroomy ⊢
      exact hroomy.mono (Nat.not_lt.mp hraised)
    · rw [hother _ hj]
      exact hroomy

theorem Sized.settle (h : Sized b d) (hset : d.settling = some k)
    (hroomy : Roomy b (d.core k) (d.core k).maxBufSize.toNat) : Sized b d.settle := by
  refine ⟨h.limited, ?_, h.loaded, h.refills⟩
  intro j _
  by_cases hj : j = k
  · exact hj ▸ hroomy
  · refine h.roomy j ?_
    rw [hset]
    exact fun hsame => hj (Option.some.inj hsame).symm

theorem Sized.load (h : Sized b d) (hquiet : d.settling ≠ some k) : Sized b (load k d) := by
  have hroomy := h.roomy k hquiet
  have hsmall := hroomy.small
  have hword : ((d.core k).maxBufSize.setWidth 16).toNat = (d.core k).maxBufSize.toNat :=
    setWidth_toNat (by omega)
  refine ⟨h.limited, h.roomy, ?_, h.refills⟩
  intro l hl hkept
  rcases List.mem_append.mp hl with hl | hl
  · exact h.loaded l hl hkept
  · rw [List.mem_singleton.mp hl]
    exact hword.symm ▸ hroomy

theorem Sized.fill {l : Loaded} (h : Sized b d) (hl : l ∈ d.loaded)
    (hquiet : d.settling ≠ some l.core) (hkept : l.outgrown = false) : Sized b (fill b l d) := by
  have hlimited := h.limited l.core
  have htaken := h.loaded l hl hkept
  have hwhole : (l.maxBufSize + b.netSkbPad).toNat = l.maxBufSize.toNat + b.netSkbPad.toNat :=
    BitVec.toNat_add_of_lt htaken.small
  refine ⟨h.limited, h.roomy, h.loaded, ?_⟩
  intro r hr
  rcases List.mem_append.mp hr with hr | hr
  · exact h.refills r hr
  · rw [List.mem_singleton.mp hr]
    exact ⟨(h.roomy l.core hquiet).ample hlimited, htaken.ample hlimited, hwhole⟩

theorem Sized.quiet (h : Sized b d) (hstep : QuietRefills b d d') : Sized b d' := by
  cases hstep with
  | load k hquiet => exact h.load hquiet
  | fill l hl hquiet hkept => exact h.fill hl hquiet hkept

theorem booted_sized (h : Booted b d) : Sized b d := by
  obtain ⟨hlow, hhigh⟩ := payload_toNat b
  have hpad := b.pad
  have hclass : ∀ k, (nssPhysIfGetMtuSz (d.core k)).toNat ≤ 1500 := by
    intro k
    apply mtuSz_le (.inl rfl)
    intro n
    rw [h.mtu]
    exact Nat.zero_le _
  refine ⟨?_, ?_, ?_, ?_⟩
  · intro k n
    rw [h.mtu]
    exact Nat.zero_le _
  · intro k _
    have hle := hclass k
    rw [h.maxBufSize]
    refine ⟨⟨?_, by omega⟩, Nat.le_refl _⟩
    change _ + 14 + 256 ≤ _
    omega
  · rw [h.loaded]
    exact nofun
  · rw [h.refills]
    exact nofun

end Steps

section Calls
variable (b : Build) {d : PhysIfTop}

/-- Between two calls, or inside one with more known of the change. -/
def During (P : PhysIfTop → Prop) (d : PhysIfTop) : Prop := Sized b d ∧ P d

def KeepsSized (d d' : PhysIfTop) : Prop := Sized b d → Sized b d'

/-- A call returns with no change under way, and changed no core unless it succeeded. -/
def Returned (cores : CoreId → Core) (a : TxStatus) (d : PhysIfTop) : Prop :=
  Sized b d ∧ d.settling = none ∧ (a ≠ .success → d.core = cores)

variable {b} {P : PhysIfTop → Prop} {cores : CoreId → Core} {k : CoreId} {n : PhysIf}

theorem during_stable
    (hP : ∀ d loaded refills, P d → P { d with loaded := loaded, refills := refills }) :
    Stable (QuietRefills b) (During b P) := by
  rintro s t hstep ⟨hsized, hp⟩
  refine ⟨hsized.quiet hstep, ?_⟩
  cases hstep with
  | load k hquiet => exact hP s _ _ hp
  | fill l hl hquiet hkept => exact hP s _ _ hp

theorem returned_stable (a : TxStatus) : Stable (QuietRefills b) (Returned b cores a) :=
  during_stable (P := fun d => d.settling = none ∧ (a ≠ .success → d.core = cores))
    fun _ _ _ h => h

def Quiet (d : PhysIfTop) : Prop := d.settling = none

theorem quiet_stable : Stable (QuietRefills b) (During b Quiet) := during_stable fun _ _ _ h => h

theorem sat_success (h : During b Quiet d) :
    Sat (QuietRefills b) (KeepsSized b) (Returned b cores) (.ret .success) d :=
  .ret (returned_stable _) ⟨h.1, h.2, fun hfail => (hfail rfl).elim⟩

theorem sat_beside {f : PhysIfTop → PhysIfTop} {q : Unit → Proc PhysIfTop TxStatus}
    (hsized : ∀ d, During b Quiet d → Sized b (f d)) (hquiet : ∀ d, (f d).settling = d.settling)
    (h : During b Quiet d)
    (hq : ∀ u, During b Quiet u → Sat (QuietRefills b) (KeepsSized b) (Returned b cores) (q ()) u) :
    Sat (QuietRefills b) (KeepsSized b) (Returned b cores) ((Proc.modify f).bind q) d := by
  apply Sat.modify quiet_stable h
  intro u hu
  have hkept := hsized u hu
  exact ⟨fun _ => hkept, hq _ ⟨hkept, (hquiet u).trans hu.2⟩⟩

theorem setMtu_sized {mtu : U16} (hmtu : mtu.toNat ≤ 1500) (h : During b Quiet d) :
    Sized b (d.setMtu k n mtu) := by
  have hlimited := h.1.limited k
  have hclass := mtuSz_setMtu_le hlimited n hmtu
  have hroomy := h.1.roomy k (by rw [h.2]; exact (Option.some_ne_none k).symm)
  exact h.1.onCore (hlimited.setMtu n (hmtu.trans (by decide))) hclass fun _ => hroomy.mono hclass

theorem register_returned {handlerId : PhysIf → CoreId} (h : During b Quiet d) :
    Sat (QuietRefills b) (KeepsSized b) (Returned b cores) (nssPhysIfRegister handlerId n) d := by
  refine sat_beside ?_ (fun _ => rfl) h fun u hu => sat_success hu
  exact fun u hu => (setMtu_sized (by decide) hu).log _

theorem unregister_returned (h : During b Quiet d) :
    Sat (QuietRefills b) (KeepsSized b) (Returned b cores) (nssPhysIfUnregister n) d := by
  refine sat_beside ?_ (fun _ => rfl) h fun u hu => ?_
  · exact fun u hu => setMtu_sized (by decide) hu
  · refine sat_beside ?_ (fun _ => rfl) hu fun v hv => sat_success hv
    exact fun v hv => (setMtu_sized (by decide) hv).log _

/-- The last part of a change: the flush, and `prev_mtu_sz`. -/
theorem sat_finish {mtu mtuSz : U16} {flushed : Bool} (h : During b Quiet d) :
    Sat (QuietRefills b) (KeepsSized b) (Returned b cores) (do
      let prevMtuSz ← Proc.read PhysIfTop.prevMtuSz
      let cryptoEnabled ← Proc.read PhysIfTop.cryptoEnabled
      if mtuSz > prevMtuSz && cryptoEnabled then
        nssN2hFlushPayloads flushed
      Proc.modify (PhysIfTop.record k n mtu mtuSz)
      return TxStatus.success) d := by
  have hrecord : ∀ u, During b Quiet u → Sat (QuietRefills b) (KeepsSized b) (Returned b cores)
      ((Proc.modify (PhysIfTop.record k n mtu mtuSz)).bind fun _ => .ret .success) u := by
    intro u hu
    refine sat_beside ?_ (fun _ => rfl) hu fun v hv => sat_success hv
    exact fun _ h => { h.1 with }
  apply Sat.read (fun _ _ h => h) quiet_stable h
  intro u hu
  apply Sat.read (fun _ _ h => h) quiet_stable hu
  intro v hv
  dsimp only
  split
  · refine sat_beside ?_ (fun _ => rfl) hv hrecord
    exact fun _ h => { h.1 with }
  · exact hrecord v hv

theorem applyMtu_returned {mtu : U32} {flushed : Bool} (hmtu : mtu.toNat ≤ 9600)
    (h : During b Quiet d) :
    Sat (QuietRefills b) (KeepsSized b) (Returned b cores) (applyMtu b k mtu n flushed) d := by
  have hword : (mtu.setWidth 16).toNat = mtu.toNat := setWidth_toNat (by omega)
  unfold applyMtu
  apply Sat.modify quiet_stable h
  intro u hu
  -- from here on the core is outside of the invariant
  have hmoved : Sized b (u.change k n (mtu.setWidth 16)) :=
    hu.1.change hu.2 (hword ▸ hmtu)
  refine ⟨fun _ => hmoved, ?_⟩
  have hstored : During b (fun d => d.settling = some k) (u.change k n (mtu.setWidth 16)) :=
    ⟨hmoved, rfl⟩
  apply Sat.read (fun _ _ h => h) (during_stable fun _ _ _ h => h) hstored
  intro v hv
  have hclass : During b (fun d => d.settling = some k ∧
      nssPhysIfGetMtuSz (d.core k) = nssPhysIfGetMtuSz (v.core k)) v := ⟨hv.1, hv.2, rfl⟩
  apply Sat.modify (during_stable fun _ _ _ h => h) hclass
  intro w hw
  have hsized : Sized b (w.setMaxBufSize k (alignedBufSize b (nssPhysIfGetMtuSz (v.core k)))) :=
    hw.1.onCore (hw.1.limited k) (Nat.le_refl _) fun hset => (hset hw.2.1).elim
  have hself : (w.setMaxBufSize k (alignedBufSize b (nssPhysIfGetMtuSz (v.core k)))).core k =
      { w.core k with maxBufSize := alignedBufSize b (nssPhysIfGetMtuSz (w.core k)) } := by
    rw [hw.2.2]
    exact onCore_self _
  refine ⟨fun _ => hsized, ?_⟩
  have hknown : During b
      (fun d => d.settling = some k ∧ Framed b (d.core k) (d.core k).maxBufSize.toNat)
      (w.setMaxBufSize k (alignedBufSize b (nssPhysIfGetMtuSz (v.core k)))) := by
    refine ⟨hsized, hw.2.1, ?_⟩
    rw [hself]
    exact framed_of_class (w.core k)
  apply Sat.read (fun _ _ h => h) (during_stable fun _ _ _ h => h) hknown
  intro x hx
  have hchecked : During b (fun d =>
      (d.settling = some k ∧ Framed b (d.core k) (d.core k).maxBufSize.toNat) ∧
        (d.core k).maxBufSize = (x.core k).maxBufSize) x := ⟨hx.1, hx.2, rfl⟩
  dsimp only
  by_cases hless : (x.core k).maxBufSize < b.payloadSize
  · rw [if_pos hless]
    apply Sat.modify (during_stable fun _ _ _ h => h) hchecked
    intro y hy
    have hroomy : Roomy b ((y.setMaxBufSize k b.payloadSize).core k)
        ((y.setMaxBufSize k b.payloadSize).core k).maxBufSize.toNat := by
      unfold PhysIfTop.setMaxBufSize
      rw [onCore_self]
      exact roomy_of_payload hy.2.1.2 (hy.2.2 ▸ hless)
    have hclamped : Sized b (y.setMaxBufSize k b.payloadSize) :=
      hy.1.onCore (hy.1.limited k) (Nat.le_refl _) fun hset => (hset hy.2.1.1).elim
    have hdone : Sized b (y.setMaxBufSize k b.payloadSize).settle := hclamped.settle hy.2.1.1 hroomy
    exact ⟨fun _ => hdone, sat_finish ⟨hdone, rfl⟩⟩
  · rw [if_neg hless]
    apply Sat.modify (during_stable fun _ _ _ h => h) hchecked
    intro y hy
    have hroomy : Roomy b (y.core k) (y.core k).maxBufSize.toNat := { hy.2.1.2 with
      payload := by rw [hy.2.2]; exact Nat.not_lt.mp hless }
    have hdone : Sized b y.settle := hy.1.settle hy.2.1.1 hroomy
    exact ⟨fun _ => hdone, sat_finish ⟨hdone, rfl⟩⟩

theorem sat_refused {why : TxFailure} (h : During b Quiet d) (hcores : d.core = cores) :
    Sat (QuietRefills b) (KeepsSized b) (Returned b cores) (.ret (.refused why)) d :=
  .ret (returned_stable _) ⟨h.1, h.2, fun _ => hcores⟩

theorem changeMtu_returned {mtu : U32} {acked flushed : Bool} (h : During b Quiet d) :
    Sat (QuietRefills b) (KeepsSized b) (Returned b d.core)
      (nssPhysIfChangeMtu b k mtu n acked flushed) d := by
  unfold nssPhysIfChangeMtu
  by_cases hlarge : mtu > NSS_GMAC_FULL_JUMBO_FRAME_MTU.setWidth 32
  · rw [if_pos hlarge]
    exact sat_refused h rfl
  · rw [if_neg hlarge]
    cases acked with
    | false => exact sat_refused h rfl
    | true => exact applyMtu_returned (Nat.not_lt.mp hlarge) h

end Calls

section Runs
variable {b : Build} {handlerId : PhysIf → CoreId} {c : Pool Unit PhysIfTop TxStatus}

theorem calls_discipline : Discipline (PhysIfCall b handlerId) (QuietRefills b)
    (fun _ => QuietRefills b) (fun _ => KeepsSized b) (fun _ => During b Quiet)
    (fun _ _ => During b Quiet) where
  others i j hne := (hne (Subsingleton.elim i j)).elim
  env _ _ _ h := h
  idle _ _ _ h := h
  calls i p hp s hs := by
    have hweaken : ∀ a t, Returned b s.core a t → During b Quiet t := fun a t ht => ⟨ht.1, ht.2.1⟩
    cases hp with
    | register n => exact (register_returned hs).post hweaken
    | unregister n => exact (unregister_returned hs).post hweaken
    | changeMtu k mtu n acked flushed => exact (changeMtu_returned hs).post hweaken

theorem booted_quiet (_ : Unit) (_ : TxStatus) (s : PhysIfTop) (h : Booted b s) (t : PhysIfTop)
    (hst : Relation.ReflTransGen (QuietRefills b) s t) : During b Quiet t :=
  quiet_stable.star hst ⟨booted_sized h, h.settling⟩

/-- As long as no refill comes between the stores of a change, and none goes on after its
    core's class has gone up, every buffer is ample for the largest MTU of its core, and a
    change that fails alters nothing. -/
theorem refills_sufficient
    (h : Reachable (Idle (Booted b)) (Step (PhysIfCall b handlerId) (QuietRefills b)) c) :
    (∀ r ∈ c.shared.refills, Sufficient b r) ∧
      ∀ k mtu n acked flushed ls c' why,
        Run (Step (PhysIfCall b handlerId) (QuietRefills b)) c
          (.call () (nssPhysIfChangeMtu b k mtu n acked flushed) :: ls) c' →
        (∀ p, .call () p ∉ ls) → c'.thread () = .ret (.refused why) →
          c'.shared.core = c.shared.core := by
  have htrack := calls_discipline.onTrack booted_quiet h
  constructor
  · have hsized := calls_discipline.invariant (Sized b) booted_quiet (fun _ => booted_sized)
      (fun _ _ _ hs hg => hg hs) (fun s t hs hst => ?_) h
    · exact hsized.refills
    · exact hs.quiet hst
  · intro k mtu n acked flushed ls c' why hrun honly hreturned
    obtain ⟨c₁, hcall, -⟩ := hrun.uncons
    have hquiet : During b Quiet c.shared := by
      cases hcall with
      | call hidle =>
        have hat := htrack ()
        rw [hidle] at hat
        exact hat _ .refl
    have hpost := calls_discipline.call_post htrack (changeMtu_returned hquiet) hrun honly hreturned
    exact hpost.2.2 nofun

end Runs

theorem bootedPool_idle : Idle (Booted boardBuild) bootedPool :=
  ⟨⟨fun _ _ => rfl, fun _ => rfl, rfl, rfl, rfl, rfl, rfl⟩, fun _ => ⟨_, rfl⟩⟩

def toMtu (mtu : U32) : Proc PhysIfTop TxStatus :=
  nssPhysIfChangeMtu boardBuild firstCore mtu firstPort true true

theorem toMtu_allowed {h : PhysIf → CoreId} {E : PhysIfTop → PhysIfTop → Prop} (mtu : U32) (n : ℕ) :
    ∀ o ∈ Order.call () (toMtu mtu) :: List.replicate n (.run ()),
      o.Allowed (PhysIfCall boardBuild h) E := by
  intro o ho
  rcases List.mem_cons.mp ho with rfl | ho
  · exact .changeMtu 0 mtu 0 true true
  · obtain rfl := (List.mem_replicate.mp ho).2
    trivial

/-- A refill before a raise, one after it that goes on while the MTU goes down again, and
    an MTU that is too large. -/
theorem refills_sufficient_jumbo : ∃ c : Pool Unit PhysIfTop TxStatus,
    c.shared.refills.map Refill.bufferLen = [1856, 9984, 9984] ∧
      (∀ r ∈ c.shared.refills, Sufficient boardBuild r) ∧
        ∃ ls c', Run (Step (PhysIfCall boardBuild fun _ => 0) (QuietRefills boardBuild)) c
          (.call () (toMtu 9601) :: ls) c' ∧ c'.shared.core = c.shared.core := by
  have hload : Reachable (Idle (Booted boardBuild))
      (Step (PhysIfCall boardBuild fun _ => 0) (QuietRefills boardBuild)) _ :=
    (Reachable.start bootedPool_idle).next (.env (.load firstCore (by decide)))
  have hfill := hload.next (.env (.fill _ (.head _) (by decide) rfl))
  have hchanged := hfill.run
    (Pool.follow_run (toMtu_allowed (h := fun _ => 0) (E := QuietRefills boardBuild) 9600 9) rfl)
  have hload' := hchanged.next (.env (.load firstCore (by decide)))
  have hfill' := hload'.next (.env (.fill _ (.tail _ (.head _)) (by decide) rfl))
  have hlower := hfill'.run
    (Pool.follow_run (toMtu_allowed (h := fun _ => 0) (E := QuietRefills boardBuild) 1500 8) rfl)
  have hlast := hlower.next (.env (.fill _ (.tail _ (.head _)) (by decide) rfl))
  have hrun : ∀ c : Pool Unit PhysIfTop TxStatus, c.thread () = .ret .success →
      Run (Step (PhysIfCall boardBuild fun _ => 0) (QuietRefills boardBuild)) c
        [.call () (toMtu 9601)] ⟨c.shared, Function.update c.thread () (toMtu 9601)⟩ :=
    fun c hidle => .cons (.call hidle (.changeMtu 0 9601 0 true true)) (.refl _)
  obtain ⟨hsufficient, hfailed⟩ := refills_sufficient hlast
  exact ⟨_, rfl, hsufficient, _, _, hrun _ rfl,
    hfailed firstCore 9601 firstPort true true _ _ _ (hrun _ rfl) nofun rfl⟩

/-- Neither half of the condition is enough: a refill right behind the store of the new
    MTU, and one that starts before a raise and fills in a buffer after it. -/
theorem refill_insufficient :
    (¬ ∀ c : Pool Unit PhysIfTop TxStatus,
      Reachable (Idle (Booted boardBuild))
        (Step (PhysIfCall boardBuild fun _ => 0) (Refills boardBuild)) c →
          ∀ r ∈ c.shared.refills, Sufficient boardBuild r) ∧
    ¬ ∀ c : Pool Unit PhysIfTop TxStatus,
      Reachable (Idle (Booted boardBuild))
        (Step (PhysIfCall boardBuild fun _ => 0)
          fun d d' => d.settling = none ∧ Refills boardBuild d d') c →
            ∀ r ∈ c.shared.refills, Sufficient boardBuild r := by
  refine ⟨fun hall => ?_, fun hall => ?_⟩
  · have hstored := (Reachable.start bootedPool_idle).run
      (Pool.follow_run (toMtu_allowed (h := fun _ => 0) (E := Refills boardBuild) 9600 1) rfl)
    have hload := hstored.next (.env (.load firstCore))
    have hfill := hload.next (.env (.fill _ (.head _)))
    have hframe := (hall _ hfill _ (.head _)).taken.frame 0
    exact absurd hframe (by decide)
  · have hload : Reachable (Idle (Booted boardBuild)) (Step (PhysIfCall boardBuild fun _ => 0)
        fun d d' => d.settling = none ∧ Refills boardBuild d d') _ :=
      (Reachable.start bootedPool_idle).next (.env ⟨rfl, .load firstCore⟩)
    have hchanged := hload.run
      (Pool.follow_run (toMtu_allowed (h := fun _ => 0)
        (E := fun d d' => d.settling = none ∧ Refills boardBuild d d') 9600 9) rfl)
    have hfill := hchanged.next (.env ⟨rfl, .fill _ (.head _)⟩)
    have hframe := (hall _ hfill _ (.head _)).taken.frame 0
    exact absurd hframe (by decide)

end NssDrv.BufferSizes
