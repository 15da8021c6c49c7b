import NssDrv.BufferPool

set_option autoImplicit false

/-!
# The accounts of the pages for the cores

Where the calls that give buffers come one after another, every page is in one
message to its core and freed as the answer says.
-/
namespace NssDrv.BufferAccounts
open CallTree ThreadRuns TransitionRuns CommonMessage ConnectionConfig N2hRequests BufferPool Bufs

/-- The pages of the messages that a core has acknowledged. -/
def ackedPages (core : NssCoreId) (ms : List Message) : ℕ :=
  (ms.map fun m => if m.core = core ∧ m.status = .acked then m.pages.length else 0).sum

/-- The message has given buffers to its core. -/
def Given (m : Message) : Prop := m.status = .acked ∧ m.pages ≠ []

variable {ι : Type}

/-- Nobody has given a core buffers, and no call has come to a message. -/
structure BufsStart (s : Bufs ι) : Prop where
  messages : s.messages = []
  next : s.next = 0
  frees : ∀ p, s.frees p = 0
  cores : ∀ c, (s.cores c).allocated = 0 ∧ (s.cores c).done = 0 ∧ (s.cores c).sem = none
  busy : ∀ i, s.busy i = none

/-- The pages in the state: those of one message, those of an ended call, and what the
    cores have. -/
structure Accounted (s : Bufs ι) : Prop where
  once : (s.messages.flatMap (·.pages)).Nodup
  core : ∀ m ∈ s.messages, ∀ p ∈ m.pages, s.requested p = m.core
  frees : ∀ p, s.frees p ≤ 1
  kept : ∀ m ∈ s.messages, m.status = .acked → ∀ p ∈ m.pages, s.frees p = 0
  ended : ∀ m ∈ s.messages, (∀ i, s.busy i ≠ some m.call) →
    m.status ≠ .pending ∧ ∀ p ∈ m.pages, s.frees p = m.status.frees
  offered : (∀ i, s.busy i = none) → ∀ p < s.next, ∃ m ∈ s.messages, p ∈ m.pages
  allocated : ∀ c, (s.cores c).allocated = PAGE_SIZE * ackedPages c s.messages
  given : ∀ m ∈ s.messages, ∀ m' ∈ s.messages, Given m → Given m' → m.core = m'.core →
    m.call = m'.call

/-- The accounts with a message `last` that is not settled and pages in hand. -/
structure Book (s : Bufs ι) (settled : List Message) (last : Option Message) (hand : List ℕ) :
    Prop where
  messages : s.messages = settled ++ last.toList
  pages : s.messages.flatMap (·.pages) ++ hand = List.range s.next
  requested : ∀ m ∈ s.messages, ∀ p ∈ m.pages, s.requested p = m.core
  unborn : ∀ p, s.next ≤ p → s.frees p = 0
  settled : ∀ m ∈ settled, m.status ≠ .pending ∧ ∀ p ∈ m.pages, s.frees p = m.status.frees
  allocated : ∀ c, (s.cores c).allocated = PAGE_SIZE * ackedPages c s.messages
  given : ∀ m ∈ s.messages, ∀ m' ∈ s.messages, Given m → Given m' → m.core = m'.core →
    m.call = m'.call

/-- The accounts while call `k` gives buffers to a core, with `n` answers to wait for. -/
structure Turn (s : Bufs ι) (c : NssCoreId) (settled : List Message) (k : ℕ)
    (last : Option Message) (hand : List ℕ) (n : ℕ) : Prop
    extends Book s settled last hand where
  named : s.named = c
  mine : ∀ m ∈ s.messages, Given m → m.core = c → m.call = k
  inHand : ∀ p ∈ hand, s.requested p = c ∧ s.frees p = 0
  done : ∀ c', (s.cores c').done = if c' = c then n else 0

def Slots (s : Bufs ι) (pages : List ℕ) : Prop := ∀ j p, pages[j]? = some p → s.vaddr j = p

/-- The call has sent its pages, and has freed `freed` of them. -/
structure Sent (s : Bufs ι) (c : NssCoreId) (settled : List Message) (k : ℕ) (pages : List ℕ)
    (status : Status) (freed n : ℕ) : Prop where
  turn : Turn s c settled k (some ⟨c, c, pages, k, status⟩) [] n
  gone : ∀ p ∈ pages.take freed, s.frees p = 1
  left : ∀ p ∈ pages.drop freed, s.frees p = 0
  slots : Slots s pages
  numPages : s.numPages = pages.length

def Answered (s : Bufs ι) (c : NssCoreId) (status : Status) : Prop :=
  status = .acked ∧ (s.cores c).response = NSS_SUCCESS ∨
    status = .refused ∧ (s.cores c).response = NSS_FAILURE

/-- The state is the one that the stage of call `k` is about. -/
def Doing (s : Bufs ι) (settled : List Message) (k : ℕ) : Stage → Prop
  | .opened c => Turn s c settled k none [] 0
  | .filling c pages => Turn s c settled k none pages 0 ∧ Slots s pages
  | .holding c pages p => Turn s c settled k none (pages ++ [p]) 0 ∧ Slots s pages
  | .filled c pages => Turn s c settled k none pages 0 ∧ Slots s pages ∧
    s.numPages = pages.length
  | .sent c pages => Sent s c settled k pages .pending 0 0 ∨
    ∃ status, Answered s c status ∧ Sent s c settled k pages status 0 1
  | .woken c pages => ∃ status, Answered s c status ∧ Sent s c settled k pages status 0 0
  | .freeing c pages n => ∃ status, status.frees = 1 ∧ Sent s c settled k pages status n 0
  | .picking c pages n => ∃ status, status.frees = 1 ∧ Sent s c settled k pages status n 0 ∧
    n < pages.length
  | .picked c pages n p => ∃ status, status.frees = 1 ∧ Sent s c settled k pages status n 0 ∧
    pages[n]? = some p
  | .settled c => Turn s c settled k none [] 0
  | _ => False

def OneByOne (s : Bufs ι) (stage : ι → Stage) : Prop :=
  ((∀ i, s.busy i = none ∧ stage i = .idle) ∧ (∀ c, (s.cores c).done = 0) ∧
    Book s s.messages none []) ∨
  ∃ i k settled, s.busy i = some k ∧ (∀ j, j ≠ i → s.busy j = none ∧ stage j = .idle) ∧
    Doing s settled k (stage i)

/-- A call starts to configure while no other is between that and its end, and while
    its core has nothing. No wait ends before the response. -/
def Careful (s : Bufs ι) (_ : ι) : BufEvent → Prop
  | .did (.init c) => (∀ j, s.busy j = none) ∧ (s.cores c).allocated = 0
  | .saw (.wait _) woken => (woken : Bool) = true
  | _ => True

section Pages
variable {ms : List Message} {m : Message} {c : NssCoreId}

theorem ackedPages_append (ms ms' : List Message) :
    ackedPages c (ms ++ ms') = ackedPages c ms + ackedPages c ms' := by
  unfold ackedPages
  rw [List.map_append, List.sum_append]

theorem ackedPages_single :
    ackedPages c [m] = if m.core = c ∧ m.status = .acked then m.pages.length else 0 :=
  List.sum_singleton

theorem ackedPages_zero (h : ackedPages c ms = 0) (hm : m ∈ ms) (hgiven : Given m) :
    m.core ≠ c := by
  intro hcore
  have hzero := List.sum_eq_zero_iff_forall_eq_nat.mp h _ (List.mem_map_of_mem hm)
  rw [if_pos ⟨hcore, hgiven.1⟩] at hzero
  exact hgiven.2 (List.eq_nil_of_length_eq_zero hzero)

end Pages

section Book
variable {s t : Bufs ι} {settled : List Message} {last : Option Message} {hand : List ℕ}
  {m : Message} {c : NssCoreId} {k n : ℕ} {stage : Stage}

/-- What the stages of a call are about stands as it was. -/
structure Frame (s t : Bufs ι) : Prop where
  messages : t.messages = s.messages
  next : t.next = s.next
  requested : t.requested = s.requested
  frees : t.frees = s.frees
  named : t.named = s.named
  numPages : t.numPages = s.numPages
  vaddr : t.vaddr = s.vaddr
  cores : ∀ c, (t.cores c).allocated = (s.cores c).allocated ∧
    (t.cores c).done = (s.cores c).done ∧ (t.cores c).response = (s.cores c).response

theorem Frame.refl (s : Bufs ι) : Frame s s :=
  ⟨rfl, rfl, rfl, rfl, rfl, rfl, rfl, fun _ => ⟨rfl, rfl, rfl⟩⟩

/-- The semaphore of a core and the number that `sysctl` shows. -/
theorem Frame.setCore {x : BufCore ι} (hallocated : x.allocated = (s.cores c).allocated)
    (hdone : x.done = (s.cores c).done) (hresponse : x.response = (s.cores c).response) :
    Frame s (s.setCore c x) := by
  refine ⟨rfl, rfl, rfl, rfl, rfl, rfl, rfl, ?_⟩
  refine (Function.forall_update_iff s.cores fun c' y => y.allocated = (s.cores c').allocated ∧
    y.done = (s.cores c').done ∧ y.response = (s.cores c').response).mpr ?_
  exact ⟨⟨hallocated, hdone, hresponse⟩, fun _ _ => ⟨rfl, rfl, rfl⟩⟩

theorem Book.frame (h : Book s settled last hand) (f : Frame s t) : Book t settled last hand := by
  constructor
  · rw [f.messages]
    exact h.messages
  · rw [f.messages, f.next]
    exact h.pages
  · rw [f.messages, f.requested]
    exact h.requested
  · rw [f.next, f.frees]
    exact h.unborn
  · rw [f.frees]
    exact h.settled
  · intro c
    rw [f.messages, (f.cores c).1]
    exact h.allocated c
  · rw [f.messages]
    exact h.given

theorem Turn.frame (h : Turn s c settled k last hand n) (f : Frame s t) :
    Turn t c settled k last hand n := by
  refine ⟨h.toBook.frame f, f.named.trans h.named, ?_, ?_, ?_⟩
  · rw [f.messages]
    exact h.mine
  · rw [f.requested, f.frees]
    exact h.inHand
  · intro c'
    exact (f.cores c').2.1.trans (h.done c')

theorem Slots.frame {pages : List ℕ} (h : Slots s pages) (f : Frame s t) : Slots t pages := by
  unfold Slots
  rw [f.vaddr]
  exact h

theorem Sent.frame {pages : List ℕ} {status : Status} {freed : ℕ}
    (h : Sent s c settled k pages status freed n) (f : Frame s t) :
    Sent t c settled k pages status freed n := by
  refine ⟨h.turn.frame f, ?_, ?_, h.slots.frame f, f.numPages.trans h.numPages⟩
  · rw [f.frees]
    exact h.gone
  · rw [f.frees]
    exact h.left

theorem Answered.frame {status : Status} (h : Answered s c status) (f : Frame s t) :
    Answered t c status := by
  unfold Answered
  rw [(f.cores c).2.2]
  exact h

theorem Doing.frame (h : Doing s settled k stage) (f : Frame s t) : Doing t settled k stage := by
  cases stage with
  | opened c => exact h.frame f
  | filling c pages => exact ⟨h.1.frame f, h.2.frame f⟩
  | holding c pages p => exact ⟨h.1.frame f, h.2.frame f⟩
  | filled c pages => exact ⟨h.1.frame f, h.2.1.frame f, f.numPages.trans h.2.2⟩
  | sent c pages =>
    rcases h with h | ⟨status, hstatus, h⟩
    · exact .inl (h.frame f)
    · exact .inr ⟨status, hstatus.frame f, h.frame f⟩
  | woken c pages =>
    obtain ⟨status, hstatus, h⟩ := h
    exact ⟨status, hstatus.frame f, h.frame f⟩
  | freeing c pages n =>
    obtain ⟨status, hstatus, h⟩ := h
    exact ⟨status, hstatus, h.frame f⟩
  | picking c pages n =>
    obtain ⟨status, hstatus, h, hn⟩ := h
    exact ⟨status, hstatus, h.frame f, hn⟩
  | picked c pages n p =>
    obtain ⟨status, hstatus, h, hp⟩ := h
    exact ⟨status, hstatus, h.frame f, hp⟩
  | settled c => exact h.frame f
  | _ => exact h.elim

theorem Book.nodup (h : Book s settled last hand) :
    (s.messages.flatMap (·.pages) ++ hand).Nodup := h.pages ▸ List.nodup_range

theorem Book.born (h : Book s settled last hand) {p : ℕ} (hm : m ∈ s.messages)
    (hp : p ∈ m.pages) : p < s.next := by
  have hmem : p ∈ List.range s.next := by
    rw [← h.pages]
    exact List.mem_append_left _ (List.mem_flatMap.mpr ⟨m, hm, hp⟩)
  exact List.mem_range.mp hmem

theorem Turn.settle (h : Turn s c settled k (some m) [] n) (hstatus : m.status ≠ .pending)
    (hfrees : ∀ p ∈ m.pages, s.frees p = m.status.frees) :
    Turn s c (settled ++ [m]) k none [] n := by
  refine { h with messages := ?_, settled := ?_ }
  · rw [h.messages]
    exact (List.append_nil _).symm
  · intro m' hm'
    rcases List.mem_append.mp hm' with hm' | hm'
    · exact h.settled m' hm'
    · obtain rfl := List.mem_singleton.mp hm'
      exact ⟨hstatus, hfrees⟩

end Book

theorem right_ite {p : Prop} [Decidable p] {stage : Stage}
    (h : Right (if p then stage else .wrong)) : p := by
  by_contra hp
  rw [if_neg hp] at h
  exact h rfl

section Steps
variable [DecidableEq ι] {s t : Bufs ι} {settled : List Message} {c : NssCoreId} {k n : ℕ} {i : ι}
  {pages : List ℕ} {stage : Stage}

/-- A write of the user changes the number that `sysctl` shows. -/
theorem procDointvec_frame {write : Bool} {ret : ℤ}
    (ht : s.effect i (.saw (.procDointvec c write) ret) t) : Frame s t ∧ t.busy = s.busy := by
  unfold effect at ht
  dsimp only at ht
  split at ht
  · obtain ⟨v, rfl⟩ := ht
    exact ⟨.setCore rfl rfl rfl, rfl⟩
  · obtain rfl := ht
    exact ⟨.refl _, rfl⟩

theorem Turn.kzalloc (h : Turn s c settled k none pages 0)
    (ht : s.effect i (.saw (.kzalloc c) (some s.next)) t) :
    Turn t c settled k none (pages ++ [s.next]) 0 := by
  obtain ⟨-, rfl⟩ := ht
  have hold : ∀ p, p ≠ s.next → Function.update s.requested s.next c p = s.requested p :=
    fun p hp => Function.update_of_ne hp _ _
  have hhand : ∀ p ∈ pages, p < s.next := by
    intro p hp
    have hmem : p ∈ List.range s.next := h.pages ▸ List.mem_append_right _ hp
    exact List.mem_range.mp hmem
  refine { h with pages := ?_, requested := ?_, unborn := ?_, inHand := ?_ }
  · change s.messages.flatMap (·.pages) ++ (pages ++ [s.next]) = List.range (s.next + 1)
    rw [← List.append_assoc, h.pages, List.range_succ]
  · intro m hm p hp
    exact (hold p (h.born hm hp).ne).trans (h.requested m hm p hp)
  · intro p hp
    exact h.unborn p (Nat.le_of_succ_le hp)
  · intro p hp
    rcases List.mem_append.mp hp with hp | hp
    · exact ⟨(hold p (hhand p hp).ne).trans (h.inHand p hp).1, (h.inHand p hp).2⟩
    · obtain rfl := List.mem_singleton.mp hp
      exact ⟨Function.update_self _ _ _, h.unborn _ (Nat.le_refl _)⟩

omit [DecidableEq ι] in
theorem Slots.store (h : Slots s pages) (page : ℕ) :
    Slots { s with vaddr := Function.update s.vaddr pages.length page } (pages ++ [page]) := by
  intro j p hp
  by_cases hj : j = pages.length
  · subst hj
    rw [List.getElem?_concat_length] at hp
    exact (Function.update_self _ _ _).trans (Option.some.inj hp)
  · have hlt : j < pages.length := by
      have hlength := (List.getElem?_eq_some_iff.mp hp).1
      rw [List.length_append] at hlength
      have hone : [page].length = 1 := rfl
      omega
    rw [List.getElem?_append_left hlt] at hp
    exact (Function.update_of_ne hj _ _).trans (h j p hp)

omit [DecidableEq ι] in
theorem Slots.named (h : Slots s pages) (hnum : s.numPages = pages.length) :
    s.pages = pages := by
  apply List.ext_getElem?
  intro j
  unfold Bufs.pages
  rw [hnum, List.getElem?_map]
  by_cases hj : j < pages.length
  · rw [List.getElem?_range hj]
    have hpage := List.getElem?_eq_getElem hj
    rw [hpage]
    exact congrArg some (h j _ hpage)
  · have hle : pages.length ≤ j := Nat.le_of_not_lt hj
    have hrange : (List.range pages.length)[j]? = none := by
      rw [List.getElem?_eq_none_iff, List.length_range]
      exact hle
    rw [hrange, List.getElem?_eq_none hle]
    rfl

theorem Turn.send {went : Bool} (h : Turn s c settled k none pages 0) (hslots : Slots s pages)
    (hnum : s.numPages = pages.length) (hbusy : s.busy i = some k)
    (ht : s.effect i (.saw (.send c) went) t) :
    Sent t c settled k pages (if went then .pending else .unsent) 0 0 := by
  have heffect : t = { s with messages := s.messages ++
      [⟨c, c, pages, k, if went then .pending else .unsent⟩] } := by
    have hraw : t = { s with messages := s.messages ++
      [⟨c, s.named, s.pages, (s.busy i).getD 0, if went then .pending else .unsent⟩] } := ht
    rw [hraw, h.named, hslots.named hnum, hbusy]
    rfl
  generalize hstatus : (if went then Status.pending else .unsent) = status at heffect ⊢
  have hopen : status ≠ .acked := by
    rw [← hstatus]
    split <;> exact nofun
  subst heffect
  have hold : ∀ m ∈ s.messages ++ [⟨c, c, pages, k, status⟩], Given m → m ∈ s.messages := by
    intro m hm hgiven
    rcases List.mem_append.mp hm with hm | hm
    · exact hm
    · obtain rfl := List.mem_singleton.mp hm
      exact absurd hgiven.1 hopen
  have hmessages : s.messages = settled := h.messages.trans (List.append_nil _)
  refine ⟨?_, nofun, fun p hp => (h.inHand p hp).2, hslots, hnum⟩
  refine { h with
    messages := ?_, pages := ?_, requested := ?_, allocated := ?_, given := ?_, mine := ?_
    inHand := nofun }
  · exact congrArg (· ++ _) hmessages
  · change (s.messages ++ [_]).flatMap Message.pages ++ [] = List.range s.next
    rw [List.append_nil, List.flatMap_append, List.flatMap_singleton]
    exact h.pages
  · intro m hm p hp
    rcases List.mem_append.mp hm with hm | hm
    · exact h.requested m hm p hp
    · obtain rfl := List.mem_singleton.mp hm
      exact (h.inHand p hp).1
  · intro c'
    change (s.cores c').allocated = PAGE_SIZE * ackedPages c' (s.messages ++ [_])
    rw [ackedPages_append, ackedPages_single, if_neg fun hacked => hopen hacked.2]
    exact h.allocated c'
  · intro m hm m' hm' hgiven hgiven'
    exact h.given m (hold m hm hgiven) m' (hold m' hm' hgiven') hgiven hgiven'
  · intro m hm hgiven
    exact h.mine m (hold m hm hgiven) hgiven

theorem getElem_last {ms : List Message} {m m' : Message} {id : ℕ}
    (h : (ms ++ [m])[id]? = some m') (hother : m' ∉ ms) : id = ms.length ∧ m' = m := by
  have hid : id = ms.length := by
    have hlt := (List.getElem?_eq_some_iff.mp h).1
    rw [List.length_append] at hlt
    have hone : [m].length = 1 := rfl
    by_contra hne
    have hbefore : id < ms.length := by omega
    rw [List.getElem?_append_left hbefore] at h
    exact hother (List.mem_of_getElem? h)
  subst hid
  rw [List.getElem?_concat_length] at h
  exact ⟨rfl, (Option.some.inj h).symm⟩

omit [DecidableEq ι] in
theorem callback_counts (x : BufCore ι) (m : Message) (r : NssCmnResponse) :
    (bufsCfgCallback x m r).done = x.done + 1 ∧ (bufsCfgCallback x m r).allocated =
      x.allocated + if r = .NSS_CMN_RESPONSE_ACK then PAGE_SIZE * m.pages.length else 0 := by
  unfold bufsCfgCallback
  by_cases hr : r = .NSS_CMN_RESPONSE_ACK
  · rw [if_neg (not_not_intro hr), if_pos hr]
    exact ⟨rfl, rfl⟩
  · rw [if_pos hr, if_neg hr]
    exact ⟨rfl, rfl⟩

omit [DecidableEq ι] in
theorem callback_answered (s : Bufs ι) (id : ℕ) (m : Message) (r : NssCmnResponse) :
    Answered (s.answer id m r) m.named
      (if r = .NSS_CMN_RESPONSE_ACK then .acked else .refused) := by
  have hcore : (s.answer id m r).cores m.named = bufsCfgCallback (s.cores m.named) m r :=
    Function.update_self _ _ _
  unfold Answered
  rw [hcore]
  unfold bufsCfgCallback
  by_cases hr : r = .NSS_CMN_RESPONSE_ACK
  · rw [if_pos hr, if_neg (not_not_intro hr)]
    exact .inl ⟨rfl, rfl⟩
  · rw [if_neg hr, if_pos hr]
    exact .inr ⟨rfl, rfl⟩

theorem Sent.respond {id : ℕ} {r : NssCmnResponse} (h : Sent s c settled k pages .pending 0 0)
    (ht : s.effect i (.did (.respond id r)) t) :
    ∃ status, Answered t c status ∧ Sent t c settled k pages status 0 1 := by
  obtain ⟨m, hm, hpending, rfl⟩ := ht
  have hturn := h.turn
  rw [hturn.messages] at hm
  obtain ⟨rfl, rfl⟩ := getElem_last hm fun hsettled => (hturn.settled m hsettled).1 hpending
  have hanswered := callback_answered s settled.length ⟨c, c, pages, k, .pending⟩ r
  obtain ⟨hdone, hallocated⟩ := callback_counts (s.cores c) ⟨c, c, pages, k, .pending⟩ r
  generalize hstatus : (if r = .NSS_CMN_RESPONSE_ACK then Status.acked else .refused) = status
    at hanswered
  have hset : (s.answer settled.length ⟨c, c, pages, k, .pending⟩ r).messages =
      settled ++ [⟨c, c, pages, k, status⟩] := by
    change s.messages.set settled.length ⟨c, c, pages, k, _⟩ = _
    rw [hturn.messages, List.set_append_right _ _ (Nat.le_refl _), Nat.sub_self, hstatus]
    rfl
  have hold : ∀ m ∈ settled, m ∈ s.messages := by
    intro m hm
    rw [hturn.messages]
    exact List.mem_append_left _ hm
  have hopen : (⟨c, c, pages, k, .pending⟩ : Message) ∈ s.messages := by
    rw [hturn.messages]
    exact List.mem_append_right _ (List.mem_singleton_self _)
  have hacked : ∀ c', ackedPages c' (settled ++ [⟨c, c, pages, k, status⟩]) =
      ackedPages c' s.messages + if c = c' ∧ status = .acked then pages.length else 0 := by
    intro c'
    have hwas : ackedPages c' s.messages = ackedPages c' settled := by
      rw [hturn.messages, ackedPages_append]
      exact congrArg _ (ackedPages_single.trans (if_neg fun hacked => by cases hacked.2))
    rw [hwas, ackedPages_append, ackedPages_single]
  have hmine : ∀ m ∈ settled ++ [⟨c, c, pages, k, status⟩], Given m → m.core = c → m.call = k := by
    intro m hm hgiven hcore
    rcases List.mem_append.mp hm with hm | hm
    · exact hturn.mine m (hold m hm) hgiven hcore
    · obtain rfl := List.mem_singleton.mp hm
      rfl
  have hother : ∀ m ∈ settled ++ [⟨c, c, pages, k, status⟩], m.core ≠ c → m ∈ s.messages := by
    intro m hm hcore
    rcases List.mem_append.mp hm with hm | hm
    · exact hold m hm
    · obtain rfl := List.mem_singleton.mp hm
      exact absurd rfl hcore
  refine ⟨status, hanswered, ⟨?_, h.gone, h.left, h.slots, h.numPages⟩⟩
  refine { hturn with
    messages := hset, pages := ?_, requested := ?_, allocated := ?_, given := ?_, mine := ?_
    done := ?_ }
  · have hpages := hturn.pages
    rw [hturn.messages, List.flatMap_append] at hpages
    rw [hset, List.flatMap_append]
    exact hpages
  · intro m hm p hp
    rw [hset] at hm
    rcases List.mem_append.mp hm with hm | hm
    · exact hturn.requested m (hold m hm) p hp
    · obtain rfl := List.mem_singleton.mp hm
      exact hturn.requested _ hopen p hp
  · rw [hset]
    refine (Function.forall_update_iff s.cores fun c' x =>
      x.allocated = PAGE_SIZE * ackedPages c' _).mpr ⟨?_, ?_⟩
    · rw [hallocated, hacked, hturn.allocated, Nat.mul_add, ← hstatus]
      by_cases hr : r = .NSS_CMN_RESPONSE_ACK
      · rw [if_pos hr, if_pos hr, if_pos ⟨rfl, rfl⟩]
      · rw [if_neg hr, if_neg hr, if_neg fun h => by cases h.2]
        rfl
    · intro c' hc'
      rw [hacked, if_neg fun h => hc' h.1.symm]
      exact hturn.allocated c'
  · intro m hm m' hm' hgiven hgiven' hcore
    rw [hset] at hm hm'
    by_cases hc : m.core = c
    · rw [hmine m hm hgiven hc, hmine m' hm' hgiven' (hcore ▸ hc)]
    · exact hturn.given m (hother m hm hc) m' (hother m' hm' (hcore ▸ hc)) hgiven hgiven' hcore
  · rw [hset]
    exact hmine
  · refine (Function.forall_update_iff s.cores fun c' x =>
      x.done = if c' = c then 1 else 0).mpr ⟨?_, ?_⟩
    · rw [hdone, hturn.done, if_pos rfl, if_pos rfl]
    · intro c' hc'
      rw [hturn.done, if_neg hc', if_neg hc']

theorem Sent.free {status : Status} {page : ℕ} (h : Sent s c settled k pages status n 0)
    (hpage : pages[n]? = some page) (ht : s.effect i (.did (.free page)) t) :
    Sent t c settled k pages status (n + 1) 0 := by
  obtain rfl : t = { s with frees := Function.update s.frees page (s.frees page + 1) } := ht
  obtain ⟨hlt, hget⟩ := List.getElem?_eq_some_iff.mp hpage
  have hdrop : pages.drop n = page :: pages.drop (n + 1) := by
    rw [List.drop_eq_getElem_cons hlt, hget]
  have hzero : s.frees page = 0 := by
    refine h.left page ?_
    rw [hdrop]
    exact List.mem_cons_self
  have hother : ∀ p, p ≠ page →
      Function.update s.frees page (s.frees page + 1) p = s.frees p :=
    fun p hp => Function.update_of_ne hp _ _
  have hnodup := h.turn.nodup
  rw [h.turn.messages, List.append_nil, List.flatMap_append] at hnodup
  obtain ⟨-, hpages, hapart⟩ := List.nodup_append.mp hnodup
  rw [Option.toList_some, List.flatMap_singleton] at hpages hapart
  have hmem : page ∈ pages := List.mem_of_getElem? hpage
  refine ⟨{ h.turn with unborn := ?_, settled := ?_, inHand := nofun }, ?_, ?_, h.slots,
    h.numPages⟩
  · intro p hp
    have hborn : page < s.next := by
      refine h.turn.born (m := ⟨c, c, pages, k, status⟩) ?_ hmem
      rw [h.turn.messages]
      exact List.mem_append_right _ (List.mem_singleton_self _)
    exact (hother p (hborn.trans_le hp).ne').trans (h.turn.unborn p hp)
  · intro m hm
    obtain ⟨hstatus, hfrees⟩ := h.turn.settled m hm
    refine ⟨hstatus, fun p hp => (hother p ?_).trans (hfrees p hp)⟩
    exact hapart p (List.mem_flatMap.mpr ⟨m, hm, hp⟩) page hmem
  · intro p hp
    rw [List.take_add_one, hpage] at hp
    rcases List.mem_append.mp hp with hearly | hnow
    · have hone := h.gone p hearly
      have hne : p ≠ page := by
        rintro rfl
        exact absurd (hone.symm.trans hzero) (by decide)
      exact (hother p hne).trans hone
    · obtain rfl := List.mem_singleton.mp hnow
      change Function.update s.frees p (s.frees p + 1) p = 1
      rw [Function.update_self, hzero]
  · intro p hp
    have hne : p ≠ page := by
      rintro rfl
      have hdropped := (List.drop_sublist n pages).nodup hpages
      rw [hdrop] at hdropped
      exact (List.nodup_cons.mp hdropped).1 hp
    refine (hother p hne).trans (h.left p ?_)
    rw [hdrop]
    exact List.mem_cons_of_mem _ hp

/-- Call `k` goes on, or has come to its end. -/
def Goes (s t : Bufs ι) (i : ι) (k : ℕ) (stage : Stage) : Prop :=
  (∃ settled, t.busy = s.busy ∧ Doing t settled k stage) ∨
    stage = .idle ∧ t.busy = Function.update s.busy i none ∧ (∀ c, (t.cores c).done = 0) ∧
      Book t t.messages none []

theorem Doing.goes (h : Doing t settled k stage) (hbusy : t.busy = s.busy) :
    Goes s t i k stage := .inl ⟨settled, hbusy, h⟩

theorem Doing.stays (h : Doing s settled k stage) (f : Frame s t) (hbusy : t.busy = s.busy) :
    Goes s t i k stage := (h.frame f).goes hbusy

variable (h : Doing s settled k stage)
include h

theorem Doing.down (hright : Right (stage.onDown c)) (ht : s.effect i (.did (.down c)) t) :
    Goes s t i k (stage.onDown c) := by
  obtain ⟨-, rfl⟩ := ht
  have f : Frame s (s.setCore c { s.cores c with sem := some i }) := .setCore rfl rfl rfl
  cases stage with
  | opened c' =>
    obtain rfl : c' = c := right_ite hright
    have hnext : Stage.onDown c' (.opened c') = .filling c' [] := if_pos rfl
    rw [hnext]
    exact Doing.goes ⟨Turn.frame h f, nofun⟩ rfl
  | _ => first | exact absurd rfl hright | exact h.elim

theorem Doing.up (hright : Right (stage.onUp c)) (ht : s.effect i (.did (.up c)) t) :
    Goes s t i k (stage.onUp c) := by
  obtain rfl := ht
  have f : Frame s (s.setCore c { s.cores c with sem := none }) := .setCore rfl rfl rfl
  cases stage with
  | settled c' =>
    obtain rfl : c' = c := right_ite hright
    have hnext : Stage.onUp c' (.settled c') = .opened c' := if_pos rfl
    rw [hnext]
    exact .inl ⟨settled, rfl, Turn.frame h f⟩
  | _ => first | exact absurd rfl hright | exact h.elim

theorem Doing.store {slot page : ℕ} (hright : Right (stage.onStore slot page))
    (ht : s.effect i (.did (.store slot page)) t) : Goes s t i k (stage.onStore slot page) := by
  obtain rfl := ht
  cases stage with
  | holding c ps p =>
    obtain ⟨rfl, rfl⟩ : slot = ps.length ∧ page = p := right_ite hright
    have hnext : Stage.onStore ps.length page (.holding c ps page) = .filling c (ps ++ [page]) :=
      if_pos ⟨rfl, rfl⟩
    rw [hnext]
    exact Doing.goes ⟨{ h.1 with }, h.2.store page⟩ rfl
  | _ => first | exact absurd rfl hright | exact h.elim

theorem Doing.setNumPages {count : ℕ} (hright : Right (stage.onNumPages count))
    (ht : s.effect i (.did (.setNumPages count)) t) : Goes s t i k (stage.onNumPages count) := by
  obtain rfl := ht
  cases stage with
  | filling c ps =>
    obtain rfl : count = ps.length := right_ite hright
    have hnext : Stage.onNumPages ps.length (.filling c ps) = .filled c ps := if_pos rfl
    rw [hnext]
    exact Doing.goes ⟨{ h.1 with }, h.2, rfl⟩ rfl
  | _ => first | exact absurd rfl hright | exact h.elim

theorem Doing.free {page : ℕ} (hright : Right (stage.onFree page))
    (ht : s.effect i (.did (.free page)) t) : Goes s t i k (stage.onFree page) := by
  cases stage with
  | picked c ps n p =>
    obtain rfl : page = p := right_ite hright
    have hnext : Stage.onFree page (.picked c ps n page) = .freeing c ps (n + 1) := if_pos rfl
    obtain ⟨status, hstatus, hsent, hpage⟩ := h
    have hfreed := hsent.free hpage ht
    obtain rfl := ht
    rw [hnext]
    exact Doing.goes ⟨status, hstatus, hfreed⟩ rfl
  | _ => first | exact absurd rfl hright | exact h.elim

theorem Doing.showAllocated (hright : Right (stage.onShow c))
    (ht : s.effect i (.did (.showAllocated c)) t) : Goes s t i k (stage.onShow c) := by
  obtain rfl := ht
  have f : Frame s (s.setCore c { s.cores c with size := (s.cores c).allocated }) :=
    .setCore rfl rfl rfl
  cases stage with
  | opened c' =>
    obtain rfl : c' = c := right_ite hright
    have hturn := Turn.frame h f
    have hdone : ∀ c, ((s.setCore c' { s.cores c' with
        size := (s.cores c').allocated }).cores c).done = 0 := by
      intro c
      rw [hturn.done]
      exact ite_self 0
    have hmessages : s.messages = settled := h.messages.trans (List.append_nil _)
    refine .inr ⟨if_pos rfl, rfl, hdone,
      { hturn with messages := (List.append_nil _).symm, settled := ?_ }⟩
    change ∀ m ∈ s.messages, _
    rw [hmessages]
    exact hturn.settled
  | _ => first | exact absurd rfl hright | exact h.elim

theorem Doing.kzalloc {page : Option ℕ} (hright : Right (stage.onKzalloc c page))
    (ht : s.effect i (.saw (.kzalloc c) page) t) : Goes s t i k (stage.onKzalloc c page) := by
  cases stage with
  | filling c' ps =>
    obtain rfl : c' = c := right_ite hright
    cases page with
    | none =>
      obtain rfl : t = s := ht
      have hnext : Stage.onKzalloc c' none (.filling c' ps) = .filling c' ps := if_pos rfl
      rw [hnext]
      exact h.goes rfl
    | some page =>
      obtain rfl : page = s.next := ht.1
      have hnext : Stage.onKzalloc c' (some s.next) (.filling c' ps) = .holding c' ps s.next :=
        if_pos rfl
      have hturn := h.1.kzalloc ht
      obtain ⟨-, rfl⟩ := ht
      rw [hnext]
      exact Doing.goes ⟨hturn, h.2⟩ rfl
  | _ => first | exact absurd rfl hright | exact h.elim

theorem Doing.send {went : Bool} (hbusy : s.busy i = some k) (hright : Right (stage.onSend c went))
    (ht : s.effect i (.saw (.send c) went) t) : Goes s t i k (stage.onSend c went) := by
  cases stage with
  | filled c' ps =>
    obtain rfl : c' = c := right_ite hright
    have hsent := h.1.send h.2.1 h.2.2 hbusy ht
    obtain rfl := ht
    cases went with
    | true =>
      have hnext : Stage.onSend c' true (.filled c' ps) = .sent c' ps := if_pos rfl
      rw [hnext]
      exact Doing.goes (.inl hsent) rfl
    | false =>
      have hnext : Stage.onSend c' false (.filled c' ps) = .freeing c' ps 0 := if_pos rfl
      rw [hnext]
      exact Doing.goes ⟨.unsent, rfl, hsent⟩ rfl
  | _ => first | exact absurd rfl hright | exact h.elim

theorem Doing.wait (hright : Right (stage.onWait c true)) (ht : s.effect i (.saw (.wait c) true) t) :
    Goes s t i k (stage.onWait c true) := by
  obtain ⟨hdone, rfl⟩ := ht
  cases stage with
  | sent c' ps =>
    obtain rfl : c' = c := right_ite hright
    have hnext : Stage.onWait c' true (.sent c' ps) = .woken c' ps := if_pos rfl
    rw [hnext]
    rcases h with h | ⟨status, hstatus, h⟩
    · have hzero := h.turn.done c'
      rw [if_pos rfl] at hzero
      exact absurd hdone (by omega)
    · refine .inl ⟨settled, rfl, status, ?_, ?_, h.gone, h.left, h.slots, h.numPages⟩
      · unfold Answered
        have hcore : (s.setCore c' { s.cores c' with done := (s.cores c').done - 1 }).cores c' =
            { s.cores c' with done := (s.cores c').done - 1 } := Function.update_self _ _ _
        rw [hcore]
        exact hstatus
      · refine { h.turn with allocated := ?_, done := ?_ }
        · refine (Function.forall_update_iff s.cores fun c x =>
            x.allocated = PAGE_SIZE * ackedPages c s.messages).mpr ?_
          exact ⟨h.turn.allocated c', fun c _ => h.turn.allocated c⟩
        · refine (Function.forall_update_iff s.cores fun c x =>
            x.done = if c = c' then 0 else 0).mpr ⟨?_, fun c hc => ?_⟩
          · have hone := h.turn.done c'
            rw [if_pos rfl] at hone ⊢
            change (s.cores c').done - 1 = 0
            omega
          · have hzero := h.turn.done c
            rwa [if_neg hc] at hzero ⊢
  | _ => first | exact absurd rfl hright | exact h.elim

/-- An acknowledged message is settled, the pages of a refused one are to be freed. -/
theorem Doing.response {r : ℤ} (hright : Right (stage.onResponse c r))
    (ht : s.effect i (.saw (.response c) r) t) : Goes s t i k (stage.onResponse c r) := by
  obtain ⟨rfl, rfl⟩ := ht
  cases stage with
  | woken c' ps =>
    obtain rfl : c' = c := right_ite hright
    have hnext : Stage.onResponse c' (t.cores c').response (.woken c' ps) =
        if (t.cores c').response = NSS_FAILURE then .freeing c' ps 0 else .settled c' := if_pos rfl
    rw [hnext]
    obtain ⟨status, ⟨rfl, hr⟩ | ⟨rfl, hr⟩, hsent⟩ := h
    · rw [hr, if_neg (by decide)]
      have hturn := hsent.turn.settle (nofun : Status.acked ≠ .pending) hsent.left
      exact .inl ⟨_, rfl, hturn⟩
    · rw [hr, if_pos rfl]
      exact Doing.goes ⟨.refused, rfl, hsent⟩ rfl
  | _ => first | exact absurd rfl hright | exact h.elim

theorem Doing.count {count : ℕ} (hright : Right (stage.onCount count))
    (ht : s.effect i (.saw .numPages count) t) : Goes s t i k (stage.onCount count) := by
  obtain ⟨rfl, rfl⟩ := ht
  cases stage with
  | freeing c ps n =>
    obtain ⟨status, hstatus, hsent⟩ := h
    have hnext : Stage.onCount t.numPages (.freeing c ps n) =
        if n < t.numPages then .picking c ps n else .settled c := if_pos hsent.numPages
    rw [hnext]
    by_cases hn : n < t.numPages
    · rw [if_pos hn]
      exact Doing.goes ⟨status, hstatus, hsent, hsent.numPages ▸ hn⟩ rfl
    · rw [if_neg hn]
      have hopen : status ≠ .pending := by
        rintro rfl
        cases hstatus
      have hturn := hsent.turn.settle hopen (fun p hp => ?_)
      · exact .inl ⟨_, rfl, hturn⟩
      · have htake : ps.take n = ps := by
          apply List.take_of_length_le
          rw [← hsent.numPages]
          exact Nat.le_of_not_lt hn
        exact (hsent.gone p (htake.symm ▸ hp)).trans hstatus.symm
  | _ => first | exact absurd rfl hright | exact h.elim

theorem Doing.vaddr {slot page : ℕ} (hright : Right (stage.onVaddr slot page))
    (ht : s.effect i (.saw (.vaddr slot) page) t) : Goes s t i k (stage.onVaddr slot page) := by
  obtain ⟨rfl, rfl⟩ := ht
  cases stage with
  | picking c ps n =>
    obtain rfl : slot = n := right_ite hright
    have hnext : Stage.onVaddr slot (t.vaddr slot) (.picking c ps slot) =
        .picked c ps slot (t.vaddr slot) := if_pos rfl
    rw [hnext]
    obtain ⟨status, hstatus, hsent, hlt⟩ := h
    have hpage := List.getElem?_eq_getElem hlt
    rw [hsent.slots slot _ hpage]
    exact Doing.goes ⟨status, hstatus, hsent, hpage⟩ rfl
  | _ => first | exact absurd rfl hright | exact h.elim

/-- A response is the one to the message that call `k` waits for. -/
theorem Doing.respond {id : ℕ} {r : NssCmnResponse} (ht : s.effect i (.did (.respond id r)) t) :
    Doing t settled k stage := by
  have hnone : ∀ c ps n, ¬ Turn s c settled k none ps n := by
    intro c ps n hturn
    obtain ⟨m, hm, hpending, -⟩ := ht
    rw [hturn.messages, Option.toList_none, List.append_nil] at hm
    exact (hturn.settled m (List.mem_of_getElem? hm)).1 hpending
  have hsome : ∀ {c ps status freed n}, Sent s c settled k ps status freed n →
      status = .pending := by
    intro c ps status freed n hsent
    obtain ⟨m, hm, hpending, -⟩ := ht
    have hturn := hsent.turn
    rw [hturn.messages] at hm
    obtain ⟨-, rfl⟩ := getElem_last hm fun hsettled => (hturn.settled m hsettled).1 hpending
    exact hpending
  have hrefused : ∀ {c ps status freed n}, Sent s c settled k ps status freed n →
      status.frees ≠ 1 := by
    intro c ps status freed n hsent
    rw [hsome hsent]
    decide
  have hanswered : ∀ {c ps status freed n}, Sent s c settled k ps status freed n →
      ¬ Answered s c status := by
    intro c ps status freed n hsent hstatus
    rw [hsome hsent] at hstatus
    rcases hstatus with ⟨hstatus, -⟩ | ⟨hstatus, -⟩ <;> cases hstatus
  cases stage with
  | opened c => exact absurd h (hnone _ _ _)
  | filling c ps => exact absurd h.1 (hnone _ _ _)
  | holding c ps p => exact absurd h.1 (hnone _ _ _)
  | filled c ps => exact absurd h.1 (hnone _ _ _)
  | sent c ps =>
    rcases h with h | ⟨status, hstatus, h⟩
    · exact .inr (h.respond ht)
    · exact absurd hstatus (hanswered h)
  | woken c ps =>
    obtain ⟨status, hstatus, h⟩ := h
    exact absurd hstatus (hanswered h)
  | freeing c ps n =>
    obtain ⟨status, hstatus, h⟩ := h
    exact absurd hstatus (hrefused h)
  | picking c ps n =>
    obtain ⟨status, hstatus, h, -⟩ := h
    exact absurd hstatus (hrefused h)
  | picked c ps n p =>
    obtain ⟨status, hstatus, h, -⟩ := h
    exact absurd hstatus (hrefused h)
  | settled c => exact absurd h (hnone _ _ _)
  | _ => exact h.elim

theorem Doing.event {e : BufEvent} (hbusy : s.busy i = some k) (hright : Right (stage.step e))
    (ht : s.effect i e t) (hcareful : Careful s i e) : Goes s t i k (stage.step e) := by
  match e, hright, ht, hcareful with
  | .did (.down c), hright, ht, _ => exact h.down hright ht
  | .did (.up c), hright, ht, _ => exact h.up hright ht
  | .did (.init c), _, _, hcareful =>
    have hnone := hcareful.1 i
    rw [hbusy] at hnone
    cases hnone
  | .did (.store slot page), hright, ht, _ => exact h.store hright ht
  | .did (.setNumPages count), hright, ht, _ => exact h.setNumPages hright ht
  | .did (.free page), hright, ht, _ => exact h.free hright ht
  | .did (.showAllocated c), hright, ht, _ => exact h.showAllocated hright ht
  | .did (.respond id r), _, ht, _ =>
    refine (h.respond ht).goes ?_
    obtain ⟨m, -, -, rfl⟩ := ht
    rfl
  | .saw (.procDointvec c write) ret, _, ht, _ =>
    obtain ⟨f, hkept⟩ := procDointvec_frame ht
    exact h.stays f hkept
  | .saw (.allocated c) count, _, ht, _ =>
    obtain ⟨-, rfl⟩ := ht
    exact h.goes rfl
  | .saw (.size c) bytes, _, ht, _ =>
    obtain ⟨-, rfl⟩ := ht
    exact h.goes rfl
  | .saw (.kzalloc c) page, hright, ht, _ => exact h.kzalloc hright ht
  | .saw .bug a, _, _, _ => exact a.elim
  | .saw (.send c) went, hright, ht, _ => exact h.send hbusy hright ht
  | .saw (.wait c) woken, hright, ht, hcareful =>
    obtain rfl : woken = true := hcareful
    exact h.wait hright ht
  | .saw (.response c) r, hright, ht, _ => exact h.response hright ht
  | .saw .numPages count, hright, ht, _ => exact h.count hright ht
  | .saw (.vaddr slot) page, hright, ht, _ => exact h.vaddr hright ht

omit h

theorem Book.init (hbook : Book s s.messages none []) (hdone : ∀ c, (s.cores c).done = 0)
    (ht : s.effect i (.did (.init c)) t) (hcareful : Careful s i (.did (.init c))) :
    t.busy = Function.update s.busy i (some s.calls) ∧
      Doing t s.messages s.calls (.opened c) := by
  obtain rfl := ht
  refine ⟨rfl, { hbook with named := rfl, mine := ?_, inHand := nofun, done := ?_ }⟩
  · intro m hm hgiven hcore
    have hacked : ackedPages c s.messages = 0 := by
      have hzero := (hbook.allocated c).symm.trans hcareful.2
      exact (Nat.mul_eq_zero.mp hzero).resolve_left (by decide)
    exact absurd hcore (ackedPages_zero hacked hm hgiven)
  · intro c'
    exact (hdone c').trans (ite_self 0).symm

/-- What a caller does that gives no buffers: it starts to, it brings a response, or
    it leaves everything as it was. -/
theorem idle_event {e : BufEvent} (hright : Right (Stage.idle.step e)) (ht : s.effect i e t)
    (hcareful : Careful s i e) (hbusy : s.busy i = none) :
    (∃ c, e = .did (.init c)) ∨ (∃ id r, e = .did (.respond id r)) ∨
      Stage.idle.step e = .idle ∧ Frame s t ∧ t.busy = s.busy := by
  match e, hright, ht, hcareful with
  | .did (.down c), hright, _, _ => exact absurd rfl hright
  | .did (.up c), hright, _, _ => exact absurd rfl hright
  | .did (.init c), _, _, _ => exact .inl ⟨c, rfl⟩
  | .did (.store slot page), hright, _, _ => exact absurd rfl hright
  | .did (.setNumPages count), hright, _, _ => exact absurd rfl hright
  | .did (.free page), hright, _, _ => exact absurd rfl hright
  | .did (.showAllocated c), _, ht, _ =>
    obtain rfl := ht
    have f : Frame s (s.setCore c { s.cores c with size := (s.cores c).allocated }) :=
      .setCore rfl rfl rfl
    refine .inr (.inr ⟨rfl, { f with }, ?_⟩)
    exact (congrArg _ hbusy.symm).trans (Function.update_eq_self i s.busy)
  | .did (.respond id r), _, _, _ => exact .inr (.inl ⟨id, r, rfl⟩)
  | .saw (.procDointvec c write) ret, _, ht, _ =>
    exact .inr (.inr ⟨rfl, procDointvec_frame ht⟩)
  | .saw (.allocated c) count, _, ht, _ =>
    obtain ⟨-, rfl⟩ := ht
    exact .inr (.inr ⟨rfl, .refl _, rfl⟩)
  | .saw (.size c) bytes, _, ht, _ =>
    obtain ⟨-, rfl⟩ := ht
    exact .inr (.inr ⟨rfl, .refl _, rfl⟩)
  | .saw (.kzalloc c) page, hright, _, _ => exact absurd rfl hright
  | .saw .bug a, _, _, _ => exact a.elim
  | .saw (.send c) went, hright, _, _ => exact absurd rfl hright
  | .saw (.wait c) woken, hright, _, _ => exact absurd rfl hright
  | .saw (.response c) r, hright, _, _ => exact absurd rfl hright
  | .saw .numPages count, hright, _, _ => exact absurd rfl hright
  | .saw (.vaddr slot) page, hright, _, _ => exact absurd rfl hright

variable {stages : ι → Stage}

theorem OneByOne.event {e : BufEvent} (h : OneByOne s stages)
    (hright : Right ((stages i).step e)) (ht : s.effect i e t) (hcareful : Careful s i e) :
    OneByOne t (Function.update stages i ((stages i).step e)) := by
  have hsame : stages i = .idle → Function.update stages i .idle = stages := by
    intro hstage
    rw [← hstage, Function.update_eq_self]
  rcases h with ⟨hidle, hdone, hbook⟩ | ⟨i₀, k, settled, hbusy, hothers, hdoing⟩
  · obtain ⟨hnone, hstage⟩ := hidle i
    rw [hstage] at hright ⊢
    rcases idle_event hright ht hcareful hnone with ⟨c, rfl⟩ | ⟨id, r, rfl⟩ | ⟨hstays, f, hkept⟩
    · obtain ⟨hkept, hdoing⟩ := hbook.init hdone ht hcareful
      refine .inr ⟨i, s.calls, s.messages, ?_, fun j hj => ?_, ?_⟩
      · rw [hkept, Function.update_self]
      · rw [hkept, Function.update_of_ne hj, Function.update_of_ne hj]
        exact hidle j
      · rw [Function.update_self]
        exact hdoing
    · obtain ⟨m, hm, hpending, -⟩ := ht
      exact absurd hpending (hbook.settled m (List.mem_of_getElem? hm)).1
    · refine .inl ⟨fun j => ?_, fun c => ((f.cores c).2.1).trans (hdone c), ?_⟩
      · rw [hkept, hstays, hsame hstage]
        exact hidle j
      · rw [f.messages]
        exact hbook.frame f
  · by_cases hi : i = i₀
    · subst hi
      rcases hdoing.event hbusy hright ht hcareful with
        ⟨settled, hkept, hdoing⟩ | ⟨hstage, hkept, hdone, hbook⟩
      · refine .inr ⟨i, k, settled, hkept ▸ hbusy, fun j hj => ?_, ?_⟩
        · rw [hkept, Function.update_of_ne hj]
          exact hothers j hj
        · rw [Function.update_self]
          exact hdoing
      · refine .inl ⟨fun j => ?_, hdone, hbook⟩
        by_cases hj : j = i
        · subst hj
          rw [hkept, Function.update_self, Function.update_self]
          exact ⟨rfl, hstage⟩
        · rw [hkept, Function.update_of_ne hj, Function.update_of_ne hj]
          exact hothers j hj
    · obtain ⟨hnone, hstage⟩ := hothers i hi
      have hi₀ : i₀ ≠ i := fun h => hi h.symm
      rw [hstage] at hright ⊢
      have hgoes : Stage.idle.step e = .idle ∧ t.busy = s.busy ∧ Doing t settled k (stages i₀) := by
        rcases idle_event hright ht hcareful hnone with ⟨c, rfl⟩ | ⟨id, r, rfl⟩ | ⟨hstays, f, hkept⟩
        · have hfree := hcareful.1 i₀
          rw [hbusy] at hfree
          cases hfree
        · refine ⟨rfl, ?_, hdoing.respond ht⟩
          obtain ⟨m, -, -, rfl⟩ := ht
          rfl
        · exact ⟨hstays, hkept, hdoing.frame f⟩
      obtain ⟨hstays, hkept, hdoing⟩ := hgoes
      rw [hstays, hsame hstage]
      refine .inr ⟨i₀, k, settled, hkept ▸ hbusy, fun j hj => ?_, hdoing⟩
      rw [hkept]
      exact hothers j hj

end Steps

section Run

def bufSystem (ι : Type) [DecidableEq ι] : System (Bufs ι) BufCommand BufAnswer ℤ Stage ι where
  Calls := BufCalls
  effect := effect
  idle := .idle
  monitor := Stage.step

abbrev BufThreads (ι : Type) : Type := Threads (Bufs ι) BufCommand BufAnswer ℤ Stage ι

variable {s : Bufs ι} {settled : List Message} {last : Option Message} {hand : List ℕ} {c : NssCoreId}
  {k n : ℕ} {i : ι} {stage : Stage} {stages : ι → Stage}

/-- The pages that are in no settled message, and what became of them so far. -/
structure Loose (s : Bufs ι) (k : ℕ) (last : Option Message) (hand : List ℕ) : Prop where
  call : ∀ m, last = some m → m.call = k
  frees : ∀ m, last = some m → ∀ p ∈ m.pages, s.frees p ≤ 1
  kept : ∀ m, last = some m → m.status = .acked → ∀ p ∈ m.pages, s.frees p = 0
  inHand : ∀ p ∈ hand, s.frees p = 0

theorem Turn.loose (h : Turn s c settled k none hand n) : Loose s k none hand :=
  ⟨nofun, nofun, nofun, fun p hp => (h.inHand p hp).2⟩

theorem Sent.loose {pages : List ℕ} {status : Status} {freed : ℕ}
    (h : Sent s c settled k pages status freed n) (hacked : status = .acked → freed = 0) :
    Loose s k (some ⟨c, c, pages, k, status⟩) [] := by
  constructor
  · rintro m ⟨⟩
    rfl
  · rintro m ⟨⟩ p hp
    rw [← List.take_append_drop freed pages] at hp
    rcases List.mem_append.mp hp with hp | hp
    · exact (h.gone p hp).le
    · rw [h.left p hp]
      exact Nat.zero_le 1
  · rintro m ⟨⟩ hstatus p hp
    refine h.left p ?_
    rw [hacked hstatus]
    exact hp
  · exact nofun

theorem Doing.loose (h : Doing s settled k stage) :
    ∃ last hand, Book s settled last hand ∧ Loose s k last hand := by
  have hrefused : ∀ {status : Status} {freed}, status.frees = 1 → status = .acked → freed = 0 := by
    intro status freed hstatus hacked
    rw [hacked] at hstatus
    cases hstatus
  cases stage with
  | opened c => exact ⟨_, _, h.toBook, h.loose⟩
  | filling c pages => exact ⟨_, _, h.1.toBook, h.1.loose⟩
  | holding c pages p => exact ⟨_, _, h.1.toBook, h.1.loose⟩
  | filled c pages => exact ⟨_, _, h.1.toBook, h.1.loose⟩
  | sent c pages =>
    rcases h with h | ⟨status, -, h⟩
    · exact ⟨_, _, h.turn.toBook, h.loose fun _ => rfl⟩
    · exact ⟨_, _, h.turn.toBook, h.loose fun _ => rfl⟩
  | woken c pages =>
    obtain ⟨status, -, h⟩ := h
    exact ⟨_, _, h.turn.toBook, h.loose fun _ => rfl⟩
  | freeing c pages n =>
    obtain ⟨status, hstatus, h⟩ := h
    exact ⟨_, _, h.turn.toBook, h.loose (hrefused hstatus)⟩
  | picking c pages n =>
    obtain ⟨status, hstatus, h, -⟩ := h
    exact ⟨_, _, h.turn.toBook, h.loose (hrefused hstatus)⟩
  | picked c pages n p =>
    obtain ⟨status, hstatus, h, -⟩ := h
    exact ⟨_, _, h.turn.toBook, h.loose (hrefused hstatus)⟩
  | settled c => exact ⟨_, _, h.toBook, h.loose⟩
  | _ => exact h.elim

theorem Book.frees_acked (h : Book s settled last hand) {m : Message} (hm : m ∈ settled)
    (hacked : m.status = .acked) {p : ℕ} (hp : p ∈ m.pages) : s.frees p = 0 := by
  rw [(h.settled m hm).2 p hp, hacked]
  rfl

theorem Book.accounted (h : Book s settled last hand) (hloose : Loose s k last hand)
    (hbusy : ∀ m, last = some m → ∃ i, s.busy i = some k)
    (hquiet : (∀ i, s.busy i = none) → hand = []) : Accounted s := by
  have hcases : ∀ m ∈ s.messages, m ∈ settled ∨ last = some m := by
    intro m hm
    rw [h.messages] at hm
    exact (List.mem_append.mp hm).imp_right Option.mem_toList.mp
  have hpages : ∀ p < s.next, (∃ m ∈ s.messages, p ∈ m.pages) ∨ p ∈ hand := by
    intro p hp
    have hmem : p ∈ List.range s.next := List.mem_range.mpr hp
    rw [← h.pages] at hmem
    exact (List.mem_append.mp hmem).imp_left List.mem_flatMap.mp
  constructor
  · exact (List.nodup_append.mp h.nodup).1
  · exact h.requested
  · intro p
    by_cases hp : p < s.next
    · rcases hpages p hp with ⟨m, hm, hmem⟩ | hmem
      · rcases hcases m hm with hsettled | hlast
        · rw [(h.settled m hsettled).2 p hmem]
          cases m.status <;> decide
        · exact hloose.frees m hlast p hmem
      · rw [hloose.inHand p hmem]
        exact Nat.zero_le 1
    · rw [h.unborn p (Nat.le_of_not_lt hp)]
      exact Nat.zero_le 1
  · intro m hm hacked p hp
    rcases hcases m hm with hsettled | hlast
    · exact h.frees_acked hsettled hacked hp
    · exact hloose.kept m hlast hacked p hp
  · intro m hm hended
    rcases hcases m hm with hsettled | hlast
    · exact h.settled m hsettled
    · obtain ⟨i, hi⟩ := hbusy m hlast
      rw [hloose.call m hlast] at hended
      exact absurd hi (hended i)
  · intro hidle p hp
    refine (hpages p hp).resolve_right ?_
    rw [hquiet hidle]
    exact nofun
  · exact h.allocated
  · exact h.given

theorem OneByOne.accounted (h : OneByOne s stages) : Accounted s := by
  rcases h with ⟨-, -, hbook⟩ | ⟨i, k, settled, hbusy, -, hdoing⟩
  · exact hbook.accounted (k := 0) ⟨nofun, nofun, nofun, nofun⟩ nofun fun _ => rfl
  · obtain ⟨last, hand, hbook, hloose⟩ := hdoing.loose
    refine hbook.accounted hloose (fun _ _ => ⟨i, hbusy⟩) fun hidle => ?_
    have hnone := hidle i
    rw [hbusy] at hnone
    cases hnone

theorem BufsStart.oneByOne (h : BufsStart s) : OneByOne s fun _ => .idle := by
  refine .inl ⟨fun i => ⟨h.busy i, rfl⟩, fun c => (h.cores c).2.1, ?_⟩
  constructor
  · exact (List.append_nil _).symm
  · rw [h.messages, h.next]
    rfl
  · rw [h.messages]
    exact nofun
  · exact fun p _ => h.frees p
  · rw [h.messages]
    exact nofun
  · intro c
    rw [h.messages, (h.cores c).1]
    rfl
  · rw [h.messages]
    exact nofun

variable [DecidableEq ι] {w : BufThreads ι}

theorem buf_keeps :
    Keeps ((bufSystem ι).guarded Careful) Right (fun stage => Ends (· = .idle) () stage) OneByOne where
  idle := ⟨nofun, .inl rfl⟩
  calls _ h := calls_staged h
  returned s st i h hdone := by
    rcases hdone with hidle | hstray
    · exact hidle
    · rcases h with ⟨hidle, -, -⟩ | ⟨j, k, settled, -, hothers, hdoing⟩
      · exact (hidle i).2
      · by_cases hi : i = j
        · subst hi
          rw [hstray] at hdoing
          exact hdoing.elim
        · exact (hothers i hi).2
  event s st i e t _ hstage heffect h := h.event hstage heffect.1 heffect.2

/-- Every run in which the calls that give buffers come one after another, and no wait
    ends early, accounts for all pages. -/
theorem pages_accounted
    (h : Reachable (Start (bufSystem ι) BufsStart) (Guarded (Step (bufSystem ι)) (Heeds Careful)) w) :
    Accounted w.shared :=
  (buf_keeps.heeded (fun _ hs => hs.oneByOne) h).inv.accounted

end Run

def noBufs : BufThreads (Fin 3) where
  shared := {
    cores := fun _ => ⟨0, 0, none, 0, 0⟩
    named := .NSS_CORE_0
    numPages := 0
    vaddr := fun _ => 0
    messages := []
    next := 0
    requested := fun _ => .NSS_CORE_0
    frees := fun _ => 0
    calls := 0
    busy := fun _ => none }
  calls _ := .ret 0
  stage _ := .idle

theorem noBufs_start : Start (bufSystem (Fin 3)) BufsStart noBufs :=
  ⟨⟨rfl, rfl, fun _ => rfl, fun _ => ⟨rfl, rfl, rfl⟩, fun _ => rfl⟩, fun _ => ⟨_, rfl⟩, fun _ => rfl⟩

theorem written_effect [DecidableEq ι] {s : Bufs ι} {i : ι} {c : NssCoreId} (v : ℤ) :
    (bufSystem ι).effect s i (.saw (.procDointvec c true) (0 : ℤ))
      (s.setCore c { s.cores c with size := v }) := by
  have hwritten : s.effect i (.saw (.procDointvec c true) (0 : ℤ))
      (s.setCore c { s.cores c with size := v }) := by
    unfold effect
    dsimp only
    rw [if_pos ⟨rfl, rfl⟩]
    exact ⟨v, rfl⟩
  exact hwritten

theorem page_effect [DecidableEq ι] {s : Bufs ι} {i : ι} {c : NssCoreId} {p : ℕ}
    (hp : p = s.next) :
    (bufSystem ι).effect s i (.saw (.kzalloc c) (some p)) { s with
      next := s.next + 1
      requested := Function.update s.requested p c } := ⟨hp, rfl⟩

theorem woken_effect [DecidableEq ι] {s : Bufs ι} {i : ι} {c : NssCoreId}
    (h : 0 < (s.cores c).done) :
    (bufSystem ι).effect s i (.saw (.wait c) true)
      (s.setCore c { s.cores c with done := (s.cores c).done - 1 }) := by
  have hwoken : s.effect i (.saw (.wait c) true)
      (s.setCore c { s.cores c with done := (s.cores c).done - 1 }) := by
    unfold effect
    dsimp only
    rw [if_pos rfl]
    exact ⟨h, rfl⟩
  exact hwoken

/-- A write of one byte gives a page, which the core accepts, and after it one for the
    other core does. -/
theorem pages_accounted_both : ∃ w : BufThreads (Fin 3),
    w.shared.messages = [⟨.NSS_CORE_0, .NSS_CORE_0, [0], 0, .acked⟩,
      ⟨.NSS_CORE_1, .NSS_CORE_1, [1], 1, .acked⟩] ∧ Accounted w.shared := by
  have hstart : Reachable (Start (bufSystem (Fin 3)) BufsStart)
      (Guarded (Step (bufSystem (Fin 3))) (Heeds Careful)) noBufs := .start noBufs_start
  have hwrite := hstart.next
    ⟨.start _ 0 (nssN2hBufCfgCore0Handler true) _ rfl (.core0 true), trivial⟩
  have hproc := hwrite.next
    ⟨.ask (q := BufQuery.procDointvec _ _) 0 (0 : ℤ) rfl (written_effect 1), trivial⟩
  have hempty := hproc.next ⟨.ask (q := BufQuery.allocated _) 0 (0 : ℕ) rfl ⟨rfl, rfl⟩, trivial⟩
  have hsize := hempty.next ⟨.ask (q := BufQuery.size _) 0 (1 : ℤ) rfl ⟨rfl, rfl⟩, trivial⟩
  have hsize' := hsize.next ⟨.ask (q := BufQuery.size _) 0 (1 : ℤ) rfl ⟨rfl, rfl⟩, trivial⟩
  have hinit := hsize'.next ⟨.tell (c := BufCommand.init _) 0 rfl rfl, fun _ => rfl, rfl⟩
  have hdown := hinit.next ⟨.tell (c := BufCommand.down _) 0 rfl ⟨rfl, rfl⟩, trivial⟩
  have hpage := hdown.next ⟨.ask (q := BufQuery.kzalloc _) 0 (some 0) rfl (page_effect rfl), trivial⟩
  have hstore := hpage.next ⟨.tell (c := BufCommand.store _ _) 0 rfl rfl, trivial⟩
  have hnum := hstore.next ⟨.tell (c := BufCommand.setNumPages _) 0 rfl rfl, trivial⟩
  have hsend := hnum.next ⟨.ask (q := BufQuery.send _) 0 true rfl rfl, trivial⟩
  have hcallback := hsend.next
    ⟨.start _ 1 (respond 0 .NSS_CMN_RESPONSE_ACK) _ rfl (.respond _ _), trivial⟩
  have hacked := hcallback.next
    ⟨.tell (c := BufCommand.respond _ _) 1 rfl ⟨_, rfl, rfl, rfl⟩, trivial⟩
  have hwoken := hacked.next
    ⟨.ask (q := BufQuery.wait .NSS_CORE_0) 0 true rfl (woken_effect Nat.one_pos), by
      unfold Heeds Careful
      rfl⟩
  have hsuccess := hwoken.next ⟨.ask (q := BufQuery.response _) 0 NSS_SUCCESS rfl ⟨rfl, rfl⟩, trivial⟩
  have hup := hsuccess.next ⟨.tell (c := BufCommand.up _) 0 rfl rfl, trivial⟩
  have hshown := hup.next ⟨.tell (c := BufCommand.showAllocated _) 0 rfl rfl, trivial⟩
  have hwrite := hshown.next
    ⟨.start _ 2 (nssN2hBufCfgCore1Handler true) _ rfl (.core1 true), trivial⟩
  have hproc := hwrite.next
    ⟨.ask (q := BufQuery.procDointvec _ _) 2 (0 : ℤ) rfl (written_effect 1), trivial⟩
  have hempty := hproc.next ⟨.ask (q := BufQuery.allocated _) 2 (0 : ℕ) rfl ⟨rfl, rfl⟩, trivial⟩
  have hsize := hempty.next ⟨.ask (q := BufQuery.size _) 2 (1 : ℤ) rfl ⟨rfl, rfl⟩, trivial⟩
  have hsize' := hsize.next ⟨.ask (q := BufQuery.size _) 2 (1 : ℤ) rfl ⟨rfl, rfl⟩, trivial⟩
  have hinit := hsize'.next ⟨.tell (c := BufCommand.init _) 2 rfl rfl, by decide, rfl⟩
  have hdown := hinit.next ⟨.tell (c := BufCommand.down _) 2 rfl ⟨rfl, rfl⟩, trivial⟩
  have hpage := hdown.next ⟨.ask (q := BufQuery.kzalloc _) 2 (some 1) rfl (page_effect rfl), trivial⟩
  have hstore := hpage.next ⟨.tell (c := BufCommand.store _ _) 2 rfl rfl, trivial⟩
  have hnum := hstore.next ⟨.tell (c := BufCommand.setNumPages _) 2 rfl rfl, trivial⟩
  have hsend := hnum.next ⟨.ask (q := BufQuery.send _) 2 true rfl rfl, trivial⟩
  have hcallback := hsend.next
    ⟨.start _ 1 (respond 1 .NSS_CMN_RESPONSE_ACK) _ rfl (.respond _ _), trivial⟩
  have hacked := hcallback.next
    ⟨.tell (c := BufCommand.respond _ _) 1 rfl ⟨_, rfl, rfl, rfl⟩, trivial⟩
  refine ⟨_, ?_, pages_accounted hacked⟩
  rfl

/-- The message of core 0 names core 1 once a call for core 1 has begun, so that its
    pages count as those of core 1. -/
theorem pages_not_accounted : ¬ ∀ w : BufThreads (Fin 3),
    Reachable (Start (bufSystem (Fin 3)) BufsStart) (Step (bufSystem (Fin 3))) w →
      Accounted w.shared := by
  intro hall
  have hstart : Reachable (Start (bufSystem (Fin 3)) BufsStart) (Step (bufSystem (Fin 3))) noBufs :=
    .start noBufs_start
  have hwrite := hstart.next (.start _ 0 (nssN2hBufCfgCore0Handler true) _ rfl (.core0 true))
  have hproc := hwrite.next (.ask (q := BufQuery.procDointvec _ _) 0 (0 : ℤ) rfl (written_effect 1))
  have hempty := hproc.next (.ask (q := BufQuery.allocated _) 0 (0 : ℕ) rfl ⟨rfl, rfl⟩)
  have hsize := hempty.next (.ask (q := BufQuery.size _) 0 (1 : ℤ) rfl ⟨rfl, rfl⟩)
  have hsize' := hsize.next (.ask (q := BufQuery.size _) 0 (1 : ℤ) rfl ⟨rfl, rfl⟩)
  have hinit := hsize'.next (.tell (c := BufCommand.init _) 0 rfl rfl)
  have hother := hinit.next (.start _ 2 (nssN2hBufCfgCore1Handler true) _ rfl (.core1 true))
  have hproc' := hother.next (.ask (q := BufQuery.procDointvec _ _) 2 (0 : ℤ) rfl (written_effect 1))
  have hempty' := hproc'.next (.ask (q := BufQuery.allocated _) 2 (0 : ℕ) rfl ⟨rfl, rfl⟩)
  have hvalue := hempty'.next (.ask (q := BufQuery.size _) 2 (1 : ℤ) rfl ⟨rfl, rfl⟩)
  have hvalue' := hvalue.next (.ask (q := BufQuery.size _) 2 (1 : ℤ) rfl ⟨rfl, rfl⟩)
  have hinit' := hvalue'.next (.tell (c := BufCommand.init _) 2 rfl rfl)
  have hdown := hinit'.next (.tell (c := BufCommand.down _) 0 rfl ⟨rfl, rfl⟩)
  have hpage := hdown.next (.ask (q := BufQuery.kzalloc _) 0 (some 0) rfl (page_effect rfl))
  have hstore := hpage.next (.tell (c := BufCommand.store _ _) 0 rfl rfl)
  have hnum := hstore.next (.tell (c := BufCommand.setNumPages _) 0 rfl rfl)
  have hsend := hnum.next (.ask (q := BufQuery.send _) 0 true rfl rfl)
  have hcallback := hsend.next (.start _ 1 (respond 0 .NSS_CMN_RESPONSE_ACK) _ rfl (.respond _ _))
  have hacked := hcallback.next (.tell (c := BufCommand.respond _ _) 1 rfl ⟨_, rfl, rfl, rfl⟩)
  have hbytes : 4096 = 0 := (hall _ hacked).allocated .NSS_CORE_1
  cases hbytes

end NssDrv.BufferAccounts
