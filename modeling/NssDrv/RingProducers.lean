import NssDrv.EmptyBufferRefill
import NssDrv.TransmitApi
import NssDrv.TransmitRing

set_option autoImplicit false

/-!
# All producers of a core's rings

The empty-buffer refill, which works on ring 0 without its lock, beside every
transmit function on any number of CPUs. Ring 0 has the refill as its only
producer as long as no interface bounce gets past its registrant check.
-/
namespace NssDrv.RingProducers
open HlosInterface SharedThread CyclicIndex DescriptorRing RingLocking TransmitQueue ThreadPool
open TransitionRuns TransmitApi EmptyBufferRefill
open TransmitEncoders (H2nPort)

def napi : ℕ := 0

def refillCall (env : RefillEnv) : Proc NssCtx (List U32) := do
  let given ← (refillEmptyBuffers napi env).zoom (NssCtx.port NSS_IF_EMPTY_BUFFER_QUEUE)
    (NssCtx.setPort NSS_IF_EMPTY_BUFFER_QUEUE)
  nssHalSendInterrupt napi NSS_REGS_H2N_INTR_STATUS_EMPTY_BUFFER_QUEUE
  Proc.modify (NssCtx.count .txEmpty)
  return given

def doorbellOf (q : ℕ) : U32 :=
  if q = NSS_IF_EMPTY_BUFFER_QUEUE then NSS_REGS_H2N_INTR_STATUS_EMPTY_BUFFER_QUEUE
  else NSS_REGS_H2N_INTR_STATUS_DATA_COMMAND_QUEUE

def rungBy (cpu : ℕ) (c : NssCtx) : List U32 :=
  (c.doorbells.filter fun d => d.cpu = cpu).map Doorbell.cause

/-- What a thread may do to ring `q` in one access. -/
structure RingMove (cpu q : ℕ) (r r' : H2nRing) : Prop where
  empty : q = NSS_IF_EMPTY_BUFFER_QUEUE → r' = r ∨ cpu = napi ∧ Produces cpu r r'
  locked : q ≠ NSS_IF_EMPTY_BUFFER_QUEUE → LockedAct cpu r r'

structure RingView (cpu q : ℕ) (r r' : H2nRing) : Prop where
  empty : q = NSS_IF_EMPTY_BUFFER_QUEUE → sentBy cpu r' = sentBy cpu r
  sole : q = NSS_IF_EMPTY_BUFFER_QUEUE → cpu = napi → SoleRely cpu r r'
  locked : q ≠ NSS_IF_EMPTY_BUFFER_QUEUE → RingRely cpu r r'

/-- Where it stands on a ring while it does not work on it. -/
structure RingStanding (cpu q : ℕ) (sent : List Enqueued) (r : H2nRing) : Prop where
  sent_eq : sentBy cpu r = sent
  quiet : q = NSS_IF_EMPTY_BUFFER_QUEUE → cpu = napi → Quiet cpu sent r
  apart : q ≠ NSS_IF_EMPTY_BUFFER_QUEUE → SharedOk r ∧ r.lock ≠ some cpu

section Rings
variable {cpu other q : ℕ} {sent : List Enqueued} {r r' : H2nRing}

theorem RingMove.refl (cpu q : ℕ) (r : H2nRing) : RingMove cpu q r r :=
  ⟨fun _ => .inl rfl, fun _ => .idle r⟩

theorem produces_sentBy (hp : Produces other r r') (hne : other ≠ cpu) :
    sentBy cpu r' = sentBy cpu r := by
  rcases hp.index_log with ⟨_, hlog⟩ | ⟨entries, hlog, hmine, _⟩
  · rw [sentBy, hlog, sentBy]
  · have hnone : entries.filter (fun e => e.cpu = cpu) = [] := by
      rw [List.filter_eq_nil_iff]
      intro e he
      simpa [hmine e he] using hne
    rw [sentBy, hlog, List.filter_append, hnone, List.append_nil, sentBy]

theorem RingMove.view (h : RingMove other q r r') (hne : other ≠ cpu) : RingView cpu q r r' := by
  refine ⟨fun hq => ?_, fun hq hnapi => ?_, fun hq => (h.locked hq).rely hne⟩
  · rcases h.empty hq with rfl | ⟨_, hp⟩
    · rfl
    · exact produces_sentBy hp hne
  · rcases h.empty hq with rfl | ⟨hother, _⟩
    · exact .refl cpu _
    · exact (hne (hother.trans hnapi.symm)).elim

theorem NssTakes.view (ht : NssTakes r r') : RingView cpu q r r' := by
  refine ⟨fun _ => ?_, fun _ _ => NssTakes.soleRely ht, fun _ => NssTakes.rely ht⟩
  obtain ⟨d, _, rfl⟩ := ht
  rfl

theorem RingView.refl (cpu q : ℕ) (r : H2nRing) : RingView cpu q r r :=
  ⟨fun _ => rfl, fun _ _ => .refl cpu r, fun _ => ⟨rfl, id, .rfl, fun _ => rfl,
    fun _ _ => ⟨rfl, rfl, rfl, le_rfl⟩⟩⟩

theorem RingStanding.view (h : RingStanding cpu q sent r) (hv : RingView cpu q r r') :
    RingStanding cpu q sent r' := by
  by_cases hq : q = NSS_IF_EMPTY_BUFFER_QUEUE
  · refine ⟨(hv.empty hq).trans h.sent_eq, fun _ hnapi => ?_, fun hne => (hne hq).elim⟩
    exact (h.quiet hq hnapi).rely (hv.sole hq hnapi)
  · have hapart := h.apart hq
    have hr := hv.locked hq
    refine ⟨(hr.sent hapart.1).trans h.sent_eq, fun he => (hq he).elim, fun _ => ?_⟩
    exact ⟨hr.ok hapart.1, fun hl => hapart.2 (hr.lock.mp hl)⟩

/-- A ring that one step of anyone treats as the ring of one producer. -/
structure Serialised (r r' : H2nRing) : Prop extends RingOk r' where
  owned : ∀ j, r.Owned j → r'.desc j = r.desc j
  moved : r'.hlosIndexMap.toNat = r.hlosIndexMap.toNat ∧ r'.log = r.log ∨
    ∃ entries, r'.log = r.log ++ entries ∧ entries.flatMap Enqueued.descs = r.pending ∧
      r'.hlosIndexMap.toNat = advance r.size.toNat r.hlosIndexMap.toNat r.wrote

/-- What holds of ring `q` whoever looks. -/
def RingSound (q : ℕ) (r : H2nRing) : Prop :=
  RingOk r ∧ (q ≠ NSS_IF_EMPTY_BUFFER_QUEUE → SharedOk r)

theorem RingMove.serialised (h : RingSound q r) (hm : RingMove cpu q r r') :
    RingSound q r' ∧ Serialised r r' := by
  by_cases hq : q = NSS_IF_EMPTY_BUFFER_QUEUE
  · rcases hm.empty hq with rfl | ⟨_, hp⟩
    · exact ⟨h, { h.1 with owned := fun _ _ => rfl, moved := .inl ⟨rfl, rfl⟩ }⟩
    · refine ⟨⟨hp.ringOk h.1, fun hne => (hne hq).elim⟩, { hp.ringOk h.1 with
        owned := fun j hj => hp.owned_unchanged h.1 hj, moved := ?_ }⟩
      rcases hp.index_log with ⟨hmap, hlog⟩ | ⟨entries, hlog, _, hall, hmap⟩
      · exact .inl ⟨by rw [hmap], hlog⟩
      · exact .inr ⟨entries, hlog, hall, hmap⟩
  · have ha := hm.locked hq
    have hok := h.2 hq
    have hok' := ha.sharedOk hok
    refine ⟨⟨hok'.toRingOk, fun _ => hok'⟩, { hok'.toRingOk with
      owned := fun j hj => ha.owned_unchanged hok hj, moved := ?_ }⟩
    rcases ha.index_log hok with hkept | ⟨e, hlog, _, hdescs, hmap⟩
    · exact .inl hkept
    · exact .inr ⟨[e], hlog, by simpa using hdescs, hmap⟩

theorem NssTakes.serialised (h : RingSound q r) (ht : NssTakes r r') :
    RingSound q r' ∧ Serialised r r' := by
  have hok := ht.ringOk h.1
  refine ⟨⟨hok, fun hq => NssTakes.sharedOk (h.2 hq) ht⟩, ?_⟩
  obtain ⟨d, _, rfl⟩ := ht
  exact { hok with owned := fun _ _ => rfl, moved := .inl ⟨rfl, rfl⟩ }

end Rings

structure Move (cpu : ℕ) (c c' : NssCtx) : Prop where
  rings : ∀ q, RingMove cpu q (c.ring q) (c'.ring q)
  rung : ∃ causes : List U32, c'.doorbells = c.doorbells ++ causes.map (Doorbell.mk cpu)
  bounces : c'.interfaceBounces = c.interfaceBounces

structure View (cpu : ℕ) (c c' : NssCtx) : Prop where
  rings : ∀ q, RingView cpu q (c.ring q) (c'.ring q)
  rung : rungBy cpu c' = rungBy cpu c

/-- Where a thread stands on every ring but the one it works on. -/
structure Standing (cpu : ℕ) (busy : Option ℕ) (sent : ℕ → List Enqueued) (rung : List U32)
    (c : NssCtx) : Prop where
  rings : ∀ q, busy ≠ some q → RingStanding cpu q (sent q) (c.ring q)
  rung_eq : rungBy cpu c = rung

/-- The NSS and the rest of the host: registrations, state, counters, locks
    that are not a ring's, at any time. -/
structure Outsider (c c' : NssCtx) : Prop where
  rings : ∀ q, c'.ring q = c.ring q ∨ NssTakes (c.ring q) (c'.ring q)
  doorbells : c'.doorbells = c.doorbells
  bounces : c'.interfaceBounces = c.interfaceBounces

theorem Move.view {cpu other : ℕ} {c c' : NssCtx} (h : Move other c c') (hne : other ≠ cpu) :
    View cpu c c' := by
  refine ⟨fun q => (h.rings q).view hne, ?_⟩
  obtain ⟨causes, hrung⟩ := h.rung
  have hnone : (causes.map (Doorbell.mk other)).filter (fun d => d.cpu = cpu) = [] := by
    rw [List.filter_eq_nil_iff]
    intro d hd
    obtain ⟨cause, _, rfl⟩ := List.mem_map.mp hd
    simpa using hne
  rw [rungBy, hrung, List.filter_append, hnone, List.append_nil, rungBy]

theorem Outsider.view {cpu : ℕ} {c c' : NssCtx} (h : Outsider c c') : View cpu c c' := by
  refine ⟨fun q => ?_, by rw [rungBy, h.doorbells, rungBy]⟩
  rcases h.rings q with heq | ht
  · rw [heq]
    exact .refl cpu q _
  · exact NssTakes.view ht

section Threads
variable {cpu q : ℕ} {busy : Option ℕ} {sent : ℕ → List Enqueued} {rung : List U32} {c : NssCtx}
  {α : Type} {Q : α → NssCtx → Prop}

theorem standing_stable : Stable (View cpu) (Standing cpu busy sent rung) :=
  fun _ _ hv h => ⟨fun q hq => (h.rings q hq).view (hv.rings q), hv.rung.trans h.rung_eq⟩

theorem sat_aside {en : NssCtx → Bool} {f : NssCtx → NssCtx} {k : NssCtx → Proc NssCtx α}
    (hf : ∀ c, (f c).ring = c.ring ∧ (f c).doorbells = c.doorbells ∧
      (f c).interfaceBounces = c.interfaceBounces)
    (h : Standing cpu busy sent rung c)
    (hk : ∀ c c', Standing cpu busy sent rung c' → Sat (View cpu) (Move cpu) Q (k c) c') :
    Sat (View cpu) (Move cpu) Q (.act en f k) c := by
  refine Sat.act standing_stable h fun u hu _ => ?_
  obtain ⟨hring, hbells, hbounces⟩ := hf u
  refine ⟨⟨fun q => ?_, ⟨[], by simp [hbells]⟩, hbounces⟩, hk u _ ⟨fun q hq => ?_, ?_⟩⟩
  · rw [hring]
    exact .refl cpu q _
  · rw [hring]
    exact hu.rings q hq
  · rw [rungBy, hbells]
    exact hu.rung_eq

theorem rungBy_ringDoorbell (cpu : ℕ) (cause : U32) (c : NssCtx) :
    rungBy cpu (c.ringDoorbell cpu cause) = rungBy cpu c ++ [cause] := by
  simp [rungBy, NssCtx.ringDoorbell]

theorem sat_ring {cause : U32} {k : Unit → Proc NssCtx α} (h : Standing cpu none sent rung c)
    (hk : ∀ c, Standing cpu none sent (rung ++ [cause]) c → Sat (View cpu) (Move cpu) Q (k ()) c) :
    Sat (View cpu) (Move cpu) Q ((nssHalSendInterrupt cpu cause).bind k) c := by
  refine Sat.modify standing_stable h fun u hu => ?_
  refine ⟨⟨fun q => .refl cpu q _, ⟨[cause], rfl⟩, rfl⟩, hk _ ⟨fun q hq => hu.rings q hq, ?_⟩⟩
  rw [rungBy_ringDoorbell, hu.rung_eq]

theorem sat_port {R G : H2nPort → H2nPort → Prop} {S : α → H2nRing → Prop}
    {p : Proc H2nPort α} (h : Standing cpu none sent rung c)
    (hR : ∀ c c', View cpu c c' → R (c.port q) (c'.port q))
    (hG : ∀ x x' : H2nPort, G x x' → RingMove cpu q x.ring x'.ring)
    (hsat : RingStanding cpu q (sent q) (c.ring q) → Sat R G (fun v x => S v x.ring) p
      (c.port q)) :
    Sat (View cpu) (Move cpu) (fun v c => Standing cpu (some q) sent rung c ∧ S v (c.ring q))
      (p.zoom (NssCtx.port q) (NssCtx.setPort q)) c := by
  have hother : Standing cpu (some q) sent rung c := ⟨fun q' _ => h.rings q' nofun, h.rung_eq⟩
  refine Sat.zoom (fun x s => s.port_setPort q x) standing_stable hR (fun s x hs hg => ?_)
    (fun v s hs hv => ⟨hs, hv⟩) (hsat (h.rings q nofun)) hother
  have hring : ∀ q', q' ≠ q → (s.setPort q x).ring q' = s.ring q' :=
    fun q' hne => Function.update_of_ne hne ..
  refine ⟨⟨fun q' => ?_, ⟨[], by simp [NssCtx.setPort]⟩, rfl⟩, fun q' hq' => ?_, hs.rung_eq⟩
  · by_cases hq : q' = q
    · subst hq
      have hself : (s.setPort q' x).ring q' = x.ring := Function.update_self ..
      rw [hself]
      exact hG _ _ hg
    · rw [hring q' hq]
      exact .refl cpu q' _
  · rw [hring q' fun hq => hq' (by rw [hq])]
    exact hs.rings q' hq'

end Threads

/-- What a send has done when it returns `v`. -/
def SendPost (cpu : ℕ) (buffer : Option U32) (sent : ℕ → List Enqueued) (rung : List U32) :
    TxStatus → NssCtx → Prop
  | .success, c => ∃ q e, buffer = some e.cookie ∧ (∃ d ∈ e.descs, d.opaqueWord = e.cookie) ∧
      Standing cpu none (Function.update sent q (sent q ++ [e])) (rung ++ [doorbellOf q]) c
  | .refused _, c => Standing cpu none sent rung c

def RefillPost (sent : ℕ → List Enqueued) (rung : List U32) (given : List U32) (c : NssCtx) : Prop :=
  ∃ ds : List H2nDescriptor, ds.map H2nDescriptor.opaqueWord = given ∧
    Standing napi none (Function.update sent NSS_IF_EMPTY_BUFFER_QUEUE
      (sent NSS_IF_EMPTY_BUFFER_QUEUE ++ ds.map (single napi)))
      (rung ++ [doorbellOf NSS_IF_EMPTY_BUFFER_QUEUE]) c

section Sends
variable {cpu q : ℕ} {sent : ℕ → List Enqueued} {rung : List U32} {c : NssCtx} {s : Sender}
  {buffer : Option U32} {cookie : U32}

theorem Standing.finish {new : List Enqueued} (h : Standing cpu (some q) sent rung c)
    (hq : RingStanding cpu q new (c.ring q)) :
    Standing cpu none (Function.update sent q new) rung c := by
  refine ⟨fun q' _ => ?_, h.rung_eq⟩
  by_cases heq : q' = q
  · subst heq
    rw [Function.update_self]
    exact hq
  · rw [Function.update_of_ne heq]
    exact h.rings q' fun hsome => heq (Option.some.inj hsome).symm

theorem sendPost_stable (v : TxStatus) : Stable (View cpu) (SendPost cpu buffer sent rung v) := by
  cases v with
  | refused why => exact standing_stable
  | success =>
    rintro s t hv ⟨q, e, hbuf, hdesc, hs⟩
    exact ⟨q, e, hbuf, hdesc, standing_stable s t hv hs⟩

theorem sat_refused {why : TxFailure} (h : Standing cpu none sent rung c) :
    Sat (View cpu) (Move cpu) (SendPost cpu buffer sent rung) (.ret (.refused why)) c :=
  Sat.ret (sendPost_stable _) h

theorem counter_aside (x : Option DrvStat) (c : NssCtx) :
    (x.elim c c.count).ring = c.ring ∧ (x.elim c c.count).doorbells = c.doorbells ∧
      (x.elim c c.count).interfaceBounces = c.interfaceBounces := by
  cases x <;> exact ⟨rfl, rfl, rfl⟩

theorem ringAfter_post {v : CoreStatus} (hqid : s.qid = NSS_IF_CMD_QUEUE)
    (h : Standing cpu (some s.qid) sent rung c)
    (hret : TransmitRing.Returned cpu (sent s.qid) cookie v (c.ring s.qid)) :
    Sat (View cpu) (Move cpu) (SendPost cpu (some cookie) sent rung) (ringAfter cpu s v) c := by
  have hne : s.qid ≠ NSS_IF_EMPTY_BUFFER_QUEUE := by
    rw [hqid]
    decide
  have hstand : ∀ new, sentBy cpu (c.ring s.qid) = new →
      RingStanding cpu s.qid new (c.ring s.qid) :=
    fun new hnew => ⟨hnew, fun he => (hne he).elim, fun _ => ⟨hret.toSharedOk, hret.lock⟩⟩
  have hfailed : v ≠ .success → Standing cpu none sent rung c := by
    intro hv
    have := h.finish (hstand _ (hret.failure hv))
    rwa [Function.update_eq_self] at this
  cases v with
  | failure => exact sat_refused (hfailed nofun)
  | failureQueue => exact sat_refused (hfailed nofun)
  | success =>
    obtain ⟨e, hsent, hcookie, hdesc⟩ := hret.success rfl
    simp only [ringAfter, Proc.bind_eq, Proc.pure_eq]
    refine sat_ring (h.finish (hstand _ hsent)) fun u hu => ?_
    refine sat_aside (counter_aside s.counter) hu fun _ w hw => ?_
    refine Sat.ret (sendPost_stable _) ⟨s.qid, e, by rw [hcookie], ?_, ?_⟩
    · rw [hcookie]
      exact hdesc
    · rw [doorbellOf, if_neg hne]
      exact hw

theorem sat_place {p : Proc H2nPort CoreStatus} (hqid : s.qid = NSS_IF_CMD_QUEUE)
    (h : Standing cpu none sent rung c)
    (hp : ∀ {size x}, Outside cpu size (sent s.qid) (H2nPort.ring x) →
      Sat (EncoderBounds.Rely cpu) (EncoderBounds.Guarantee cpu)
        (fun v x => TransmitRing.Returned cpu (sent s.qid) cookie v x.ring) p x) :
    Sat (View cpu) (Move cpu) (SendPost cpu (some cookie) sent rung)
      ((p.zoom (NssCtx.port s.qid) (NssCtx.setPort s.qid)).bind (ringAfter cpu s)) c := by
  have hne : s.qid ≠ NSS_IF_EMPTY_BUFFER_QUEUE := by
    rw [hqid]
    decide
  refine Sat.bind (sat_port (R := EncoderBounds.Rely cpu) (G := EncoderBounds.Guarantee cpu)
    (S := TransmitRing.Returned cpu (sent s.qid) cookie) h
    (fun _ _ hv => (hv.rings _).locked hne)
    (fun x x' hg => ⟨fun he => (hne he).elim, fun _ => hg⟩) fun hring => ?_) ?_
  · have hapart := hring.apart hne
    have hout : Outside cpu (c.ring s.qid).size (sent s.qid) (c.ring s.qid) :=
      { hapart.1 with lock := hapart.2, size_eq := rfl, sent_eq := hring.sent_eq }
    exact hp hout
  · rintro v t ⟨ht, hret⟩
    exact ringAfter_post hqid ht hret

theorem sendBuffer_post {env : TransmitEncoders.TxEnv} {ifNum : U32}
    {nbuf : TransmitEncoders.TxSkb} (hqid : s.qid = NSS_IF_CMD_QUEUE)
    (h : Standing cpu none sent rung c) :
    Sat (View cpu) (Move cpu) (SendPost cpu (some nbuf.addr) sent rung)
      (sendBuffer cpu s env ifNum nbuf) c :=
  sat_place hqid h fun hout => TransmitRing.sendBuffer_returned hout

theorem sendMessage_post {env : TransmitEncoders.TxEnv} {nbuf : Option TransmitEncoders.TxSkb}
    (hqid : s.qid = NSS_IF_CMD_QUEUE) (h : Standing cpu none sent rung c) :
    Sat (View cpu) (Move cpu) (SendPost cpu (nbuf.map fun nbuf => nbuf.addr) sent rung)
      (sendMessage cpu s env nbuf) c := by
  cases nbuf with
  | some nbuf => exact sendBuffer_post hqid h
  | none =>
    simp only [sendMessage, Proc.bind_eq, Proc.pure_eq]
    split
    · refine sat_aside (fun _ => ⟨rfl, rfl, rfl⟩) h fun _ u hu => ?_
      refine sat_aside (fun _ => ⟨rfl, rfl, rfl⟩) hu fun _ v hv => ?_
      exact sat_aside (fun _ => ⟨rfl, rfl, rfl⟩) hv fun _ w hw => sat_refused hw
    · exact sat_aside (fun _ => ⟨rfl, rfl, rfl⟩) h fun _ u hu => sat_refused hu

theorem whenReady_post {before after : Option TxFailure} {k : Proc NssCtx TxStatus}
    (h : Standing cpu none sent rung c)
    (hk : ∀ c, Standing cpu none sent rung c →
      Sat (View cpu) (Move cpu) (SendPost cpu buffer sent rung) k c) :
    Sat (View cpu) (Move cpu) (SendPost cpu buffer sent rung) (whenReady s before after k) c := by
  cases before with
  | some why => exact sat_refused h
  | none =>
    simp only [whenReady, Proc.bind_eq, Proc.pure_eq]
    refine sat_aside (fun _ => ⟨rfl, rfl, rfl⟩) h fun u v hv => ?_
    simp only [Proc.ret_bind]
    split
    · exact sat_refused hv
    · cases after with
      | some why => exact sat_refused hv
      | none => exact hk v hv

theorem refillCall_post {env : RefillEnv} (h : Standing napi none sent rung c) :
    Sat (View napi) (Move napi) (RefillPost sent rung) (refillCall env) c := by
  simp only [refillCall, Proc.bind_eq, Proc.pure_eq]
  refine Sat.bind (sat_port (q := NSS_IF_EMPTY_BUFFER_QUEUE) (R := EmptyBufferRefill.Rely napi)
    (G := EmptyBufferRefill.Guarantee napi)
    (S := RefillDone napi (sent NSS_IF_EMPTY_BUFFER_QUEUE)) h (fun _ _ hv => (hv.rings _).sole rfl rfl)
    (fun x x' hg => ⟨fun _ => ?_, fun hne => (hne rfl).elim⟩)
    fun hring => refillEmptyBuffers_done (hring.quiet rfl rfl)) ?_
  · rcases hg with heq | hp
    · exact .inl heq
    · exact .inr ⟨rfl, hp⟩
  · rintro given t ⟨ht, ds, hgiven, hquiet⟩
    have hstand := ht.finish (q := NSS_IF_EMPTY_BUFFER_QUEUE)
      ⟨hquiet.sent_eq, fun _ _ => hquiet, fun hne => (hne rfl).elim⟩
    refine sat_ring hstand fun u hu => ?_
    refine sat_aside (fun _ => ⟨rfl, rfl, rfl⟩) hu fun _ w hw => ?_
    refine Sat.ret ?_ ⟨ds, hgiven, hw⟩
    rintro x y hv ⟨es, hes, hx⟩
    exact ⟨es, hes, standing_stable x y hv hx⟩

end Sends

/-- No interface bounce has got past its registrant check. -/
abbrev Unbounced (c : NssCtx) : Prop := c.interfaceBounces = 0

section Bounces
variable {cpu : ℕ} {sent : ℕ → List Enqueued} {rung : List U32} {c : NssCtx} {s : Sender}
  {env : TransmitEncoders.TxEnv} {ifNum : U32} {nbuf : TransmitEncoders.TxSkb} {α β : Type}

theorem ends_act {en : NssCtx → Bool} {f : NssCtx → NssCtx} {k : NssCtx → Proc NssCtx α}
    (hf : ∀ c, (f c).interfaceBounces = c.interfaceBounces) (hk : ∀ c, Ends Unbounced (k c)) :
    Ends Unbounced (.act en f k) :=
  Ends.act (fun c h => (hf c).symm.trans h) hk

theorem ends_zoom {q : ℕ} (p : Proc H2nPort α) :
    Ends Unbounced (p.zoom (NssCtx.port q) (NssCtx.setPort q)) :=
  Ends.zoom p fun _ _ h => h

theorem ends_ringAfter (v : CoreStatus) : Ends Unbounced (ringAfter cpu s v) := by
  cases v with
  | success =>
    exact ends_act (fun _ => rfl) fun _ =>
      ends_act (fun c => (counter_aside s.counter c).2.2) fun _ => .ret _
  | failure => exact .ret _
  | failureQueue => exact .ret _

theorem ends_sendBuffer : Ends Unbounced (sendBuffer cpu s env ifNum nbuf) :=
  (ends_zoom _).bind ends_ringAfter

theorem ends_sendMessage (nbuf : Option TransmitEncoders.TxSkb) :
    Ends Unbounced (sendMessage cpu s env nbuf) := by
  cases nbuf with
  | some nbuf => exact ends_sendBuffer
  | none =>
    simp only [sendMessage, Proc.bind_eq, Proc.pure_eq]
    split
    · exact ends_act (fun _ => rfl) fun _ => ends_act (fun _ => rfl) fun _ =>
        ends_act (fun _ => rfl) fun _ => .ret _
    · exact ends_act (fun _ => rfl) fun _ => .ret _

theorem ends_whenReady {before after : Option TxFailure} {k : Proc NssCtx TxStatus}
    (hk : Ends Unbounced k) : Ends Unbounced (whenReady s before after k) := by
  cases before with
  | some why => exact .ret _
  | none =>
    simp only [whenReady, Proc.bind_eq, Proc.pure_eq]
    refine ends_act (fun _ => rfl) fun u => ?_
    simp only [Proc.ret_bind]
    split
    · exact .ret _
    · cases after with
      | some why => exact .ret _
      | none => exact hk

theorem ends_refillCall (env : RefillEnv) : Ends Unbounced (refillCall env) :=
  (ends_zoom _).bind fun _ => ends_act (fun _ => rfl) fun _ => ends_act (fun _ => rfl) fun _ =>
    .ret _

def bounceRest (cpu : ℕ) (s : Sender) (env : TransmitEncoders.TxEnv) (ifNum : U32)
    (nbuf : TransmitEncoders.TxSkb) (known : Bool) : Proc NssCtx TxStatus :=
  if known then
    (Proc.modify fun c : NssCtx => { c with topLock := none }).bind fun _ =>
      sendBuffer cpu s env ifNum nbuf
  else
    (Proc.modify fun c : NssCtx => { c with statsLock := none }).bind fun _ =>
      .ret (.refused .failure)

theorem bouncePacket_eq (registered : NssCtx → Bool) (found : NssCtx → NssCtx) :
    bouncePacket cpu s env ifNum registered found nbuf =
      .act (fun c => c.topLock.isNone) (fun c => { c with topLock := some cpu }) fun _ =>
        .act (fun _ => true) (fun c => if registered c then found c else c) fun c =>
          bounceRest cpu s env ifNum nbuf (registered c) := rfl

theorem ends_bounceRest (known : Bool) : Ends Unbounced (bounceRest cpu s env ifNum nbuf known) := by
  cases known with
  | true => exact ends_act (fun _ => rfl) fun _ => ends_sendBuffer
  | false => exact ends_act (fun _ => rfl) fun _ => .ret _

theorem ends_bouncePacket {registered : NssCtx → Bool} {found : NssCtx → NssCtx}
    (hfound : ∀ c, Unbounced (found c) → Unbounced c) :
    Ends Unbounced (bouncePacket cpu s env ifNum registered found nbuf) := by
  rw [bouncePacket_eq]
  refine ends_act (fun _ => rfl) fun _ => Ends.act (fun c => ?_) fun c => ends_bounceRest _
  split
  · exact hfound c
  · exact id

theorem bounceRest_post {known : Bool} (hqid : known → s.qid = NSS_IF_CMD_QUEUE)
    (h : Standing cpu none sent rung c) :
    Sat (View cpu) (Move cpu) (SendPost cpu (some nbuf.addr) sent rung)
      (bounceRest cpu s env ifNum nbuf known) c := by
  cases known with
  | true => exact sat_aside (fun _ => ⟨rfl, rfl, rfl⟩) h fun _ u hu => sendBuffer_post (hqid rfl) hu
  | false => exact sat_aside (fun _ => ⟨rfl, rfl, rfl⟩) h fun _ u hu => sat_refused hu

theorem bounceBridge_post (h : Standing cpu none sent rung c) :
    Sat (View cpu) (Move cpu) (SendPost cpu (some nbuf.addr) sent rung)
      (nssShaperBounceBridgePacket cpu env ifNum nbuf) c := by
  rw [nssShaperBounceBridgePacket, bouncePacket_eq]
  refine sat_aside (fun _ => ⟨rfl, rfl, rfl⟩) h fun _ u hu => ?_
  refine sat_aside (fun c => ?_) hu fun _ w hw => bounceRest_post (fun _ => rfl) hw
  split <;> exact ⟨rfl, rfl, rfl⟩

/-- The check that finds a registrant ends `Unbounced`; after any other the
    call gives up. -/
theorem bounceInterface_post (h : Unbounced c → Standing cpu none sent rung c) :
    Sat (Until Unbounced (View cpu)) (Until Unbounced (Move cpu))
      (fun v c => Unbounced c → SendPost cpu (some nbuf.addr) sent rung v c)
      (nssShaperBounceInterfacePacket cpu env ifNum nbuf) c := by
  rw [nssShaperBounceInterfacePacket, bouncePacket_eq]
  have hstable : Stable (Until Unbounced (View cpu))
      (fun c => Unbounced c → Standing cpu none sent rung c) := Until.stable standing_stable
  have hidle : ∀ u v : NssCtx, v.ring = u.ring → v.doorbells = u.doorbells →
      v.interfaceBounces = u.interfaceBounces → Move cpu u v := by
    intro u v hring hbells hbounces
    refine ⟨fun q => ?_, ⟨[], by simp [hbells]⟩, hbounces⟩
    rw [hring]
    exact .refl cpu q _
  refine Sat.act hstable h fun u hu _ => ?_
  refine ⟨fun hA => ⟨hA, hidle _ _ rfl rfl rfl⟩, ?_⟩
  refine Sat.act hstable (fun hA => ⟨(hu hA).rings, (hu hA).rung_eq⟩) fun v hv _ => ?_
  by_cases hreg : v.interfaceRegistered ifNum
  · rw [if_pos hreg]
    refine ⟨fun hA => (Nat.succ_ne_zero _ hA).elim, ?_⟩
    exact Sat.until (ends_bounceRest _) fun hA => (Nat.succ_ne_zero _ hA).elim
  · rw [if_neg hreg]
    refine ⟨fun hA => ⟨hA, hidle _ _ rfl rfl rfl⟩, ?_⟩
    exact Sat.until (ends_bounceRest _) fun hA =>
      bounceRest_post (fun hknown => (hreg hknown).elim) (hv hA)

theorem message_qid (hs : s ∈ messageSenders) : s.qid = NSS_IF_CMD_QUEUE := by
  revert s
  decide

theorem packet_qid (hs : s ∈ packetSenders) : s.qid = NSS_IF_CMD_QUEUE := by
  revert s
  decide

theorem request_post (req : Request) (h : Unbounced c → Standing cpu none sent rung c) :
    Sat (Until Unbounced (View cpu)) (Until Unbounced (Move cpu))
      (fun v c => Unbounced c → SendPost cpu req.buffer sent rung v c) (req.call cpu) c := by
  cases req with
  | message s known env before after nbuf =>
    exact Sat.until (ends_whenReady (ends_sendMessage nbuf)) fun hA =>
      whenReady_post (h hA) fun _ hu => sendMessage_post (message_qid known) hu
  | messageExt env after nbuf =>
    simp only [Request.call, Request.buffer, txBuf]
    exact Sat.until (ends_whenReady ends_sendBuffer) fun hA =>
      whenReady_post (h hA) fun _ hu => sendBuffer_post (s := nssWifiVdevTxMsgExt) rfl hu
  | packet s known env ifNum before after nbuf =>
    exact Sat.until (ends_whenReady ends_sendBuffer) fun hA =>
      whenReady_post (h hA) fun _ hu => sendBuffer_post (packet_qid known) hu
  | crypto buf bufPaddr len =>
    simp only [Request.call, Request.buffer, cryptoTxBuf]
    exact Sat.until (ends_whenReady ((ends_zoom _).bind ends_ringAfter)) fun hA =>
      whenReady_post (h hA) fun _ hu =>
        sat_place (s := nssCryptoTxBuf) rfl hu fun hout => TransmitRing.sendCrypto_returned hout
  | bounceInterface env ifNum nbuf => exact bounceInterface_post h
  | bounceBridge env ifNum nbuf =>
    exact Sat.until (ends_bouncePacket fun _ => id) fun hA => bounceBridge_post (h hA)
  | c2cMap env nbuf =>
    exact Sat.until (ends_sendMessage nbuf) fun hA => sendMessage_post rfl (h hA)

end Bounces
end NssDrv.RingProducers
