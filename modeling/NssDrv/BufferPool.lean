import NssDrv.N2hRequests
import NssDrv.ThreadRuns

set_option autoImplicit false

/-!
# Buffers for the cores from host memory

The writers of the files that give a core more buffers, with the pages that they
allocate. The message is one for both cores, the semaphores are not.
-/
namespace NssDrv.BufferPool
open CallTree ThreadRuns TransitionRuns CommonMessage ConnectionConfig N2hRequests

def NSS_N2H_MAX_BUF_POOL_SIZE : ℤ := 1024 * 1024 * 8
def eperm : ℤ := 1

/-- `init` is `nss_n2h_msg_init`, `showAllocated` the last statement about a call, and
    `respond` what the callback does with the response to a message. -/
inductive BufCommand where
  | down (core : NssCoreId)
  | up (core : NssCoreId)
  | init (core : NssCoreId)
  | store (slot page : ℕ)
  | setNumPages (n : ℕ)
  | free (page : ℕ)
  | showAllocated (core : NssCoreId)
  | respond (id : ℕ) (r : NssCmnResponse)

inductive BufQuery where
  | procDointvec (core : NssCoreId) (write : Bool)
  | allocated (core : NssCoreId)
  | size (core : NssCoreId)
  | kzalloc (core : NssCoreId)
  | bug
  | send (core : NssCoreId)
  | wait (core : NssCoreId)
  | response (core : NssCoreId)
  | numPages
  | vaddr (slot : ℕ)

abbrev BufAnswer : BufQuery → Type
  | .procDointvec _ _ => ℤ
  | .allocated _ => ℕ
  | .size _ => ℤ
  | .kzalloc _ => Option ℕ
  | .bug => Empty
  | .send _ => Bool
  | .wait _ => Bool
  | .response _ => ℤ
  | .numPages => ℕ
  | .vaddr _ => ℕ

abbrev BufCall (α : Type) : Type := Call BufCommand BufAnswer α
abbrev BufEvent : Type := Event BufCommand BufAnswer

section Calls

def down (core : NssCoreId) : BufCall Unit := Call.command (.down core)
def up (core : NssCoreId) : BufCall Unit := Call.command (.up core)
def msgInit (core : NssCoreId) : BufCall Unit := Call.command (.init core)
def store (slot page : ℕ) : BufCall Unit := Call.command (.store slot page)
def setNumPages (n : ℕ) : BufCall Unit := Call.command (.setNumPages n)
def kfree (page : ℕ) : BufCall Unit := Call.command (.free page)
def showAllocated (core : NssCoreId) : BufCall Unit := Call.command (.showAllocated core)

def procDointvec (core : NssCoreId) (write : Bool) : BufCall ℤ := .ask (.procDointvec core write) .ret
def allocated (core : NssCoreId) : BufCall ℕ := .ask (.allocated core) .ret
def size (core : NssCoreId) : BufCall ℤ := .ask (.size core) .ret
def kzalloc (core : NssCoreId) : BufCall (Option ℕ) := .ask (.kzalloc core) .ret
def send (core : NssCoreId) : BufCall Bool := .ask (.send core) .ret
def wait (core : NssCoreId) : BufCall Bool := .ask (.wait core) .ret
def response (core : NssCoreId) : BufCall ℤ := .ask (.response core) .ret
def numPages : BufCall ℕ := .ask .numPages .ret
def vaddr (slot : ℕ) : BufCall ℕ := .ask (.vaddr slot) .ret

/-- `BUG_ON`, which does not return. -/
def bug {α : Type} : BufCall α := .ask .bug fun none => none.elim

/-- The inner loop, with room for some more pages: the pages in the message and those
    still to come. -/
def allocPages (core : NssCoreId) : ℕ → ℕ → ℕ → BufCall (ℕ × ℕ)
  | 0, pageCount, pages => return (pageCount, pages)
  | _ + 1, pageCount, 0 => return (pageCount, 0)
  | room + 1, pageCount, pages + 1 => do
    match ← kzalloc core with
    | none => if pageCount = 0 then bug else return (pageCount, pages + 1)
    | some page =>
      store pageCount page
      allocPages core room (pageCount + 1) pages

/-- `nss_n2h_buf_pool_free` from a slot on. The loop ends, as no message has more than
    `MAX_PAGES_PER_MSG` pages. -/
def freePages : ℕ → ℕ → BufCall Unit
  | 0, _ => return ()
  | room + 1, pageCount => do
    if pageCount < (← numPages) then
      kfree (← vaddr pageCount)
      freePages room (pageCount + 1)
    else return ()

def nssN2hBufPoolFree : BufCall Unit := freePages (MAX_PAGES_PER_MSG + 1) 0

/-- The label `failure`. -/
def failBufPool (core : NssCoreId) : BufCall ℤ := do
  up core
  return NSS_FAILURE

/-- The outer loop. Every round that goes on has stored a page. -/
def sendRounds (core : NssCoreId) : ℕ → ℕ → BufCall ℤ
  | 0, _ => return NSS_SUCCESS
  | rounds + 1, pages => do
    down core
    let (pageCount, rest) ← allocPages core MAX_PAGES_PER_MSG 0 pages
    setNumPages pageCount
    if !(← send core) then
      nssN2hBufPoolFree
      failBufPool core
    else if !(← wait core) then failBufPool core
    else if (← response core) = NSS_FAILURE then
      nssN2hBufPoolFree
      failBufPool core
    else
      up core
      if rest ≠ 0 then sendRounds core rounds rest else return NSS_SUCCESS

/-- `ALIGN(buf_pool_size, PAGE_SIZE)/PAGE_SIZE`, where the division is unsigned. -/
def pagesOf (bufPoolSize : ℤ) : ℕ := ((bufPoolSize + PAGE_SIZE - 1) / PAGE_SIZE % 2 ^ 20).toNat

def nssN2hBufPoolCfg (core : NssCoreId) (bufPoolSize : ℤ) : BufCall ℤ := do
  msgInit core
  sendRounds core (pagesOf bufPoolSize + 1) (pagesOf bufPoolSize)

def bufCfgHandler (core : NssCoreId) (write : Bool) : BufCall ℤ := do
  let ret ← procDointvec core write
  if ret ≠ 0 then return ret
  else if !write then return ret
  else if (← allocated core) ≠ 0 then
    showAllocated core
    return -eperm
  else
    let requested ← size core
    if 1 ≤ requested ∧ requested ≤ NSS_N2H_MAX_BUF_POOL_SIZE then
      let ret ← nssN2hBufPoolCfg core (← size core)
      showAllocated core
      return ret
    else return -einval

def nssN2hBufCfgCore0Handler (write : Bool) := bufCfgHandler .NSS_CORE_0 write
def nssN2hBufCfgCore1Handler (write : Bool) := bufCfgHandler .NSS_CORE_1 write

def respond (id : ℕ) (r : NssCmnResponse) : BufCall ℤ := do
  Call.command (.respond id r)
  return 0

inductive BufCalls : BufCall ℤ → Prop where
  | core0 (write : Bool) : BufCalls (nssN2hBufCfgCore0Handler write)
  | core1 (write : Bool) : BufCalls (nssN2hBufCfgCore1Handler write)
  | respond (id : ℕ) (r : NssCmnResponse) : BufCalls (respond id r)

end Calls

inductive Status where
  | unsent
  | pending
  | acked
  | refused
  deriving DecidableEq

/-- How often the pages of a message are freed in the end. -/
def Status.frees : Status → ℕ
  | .unsent => 1
  | .pending => 0
  | .acked => 0
  | .refused => 1

/-- A message that was sent, or that could not be, over the context of `core`. It names
    the core whose callback its response runs; `call` is the call that made it. -/
structure Message where
  core : NssCoreId
  named : NssCoreId
  pages : List ℕ
  call : ℕ
  status : Status

/-- The `nss_n2h_bufcp` of a core with the number that `sysctl` shows and what the
    callback has counted. -/
structure BufCore (ι : Type) where
  size : ℤ
  allocated : ℕ
  sem : Option ι
  done : ℕ
  response : ℤ

/-- The shared message is `named`, `numPages` and `vaddr`. Ghosts: the pages that there have
    been, each with the core it is for and how often it was freed, and the call of each
    caller between its `init` and its end. -/
structure Bufs (ι : Type) where
  cores : NssCoreId → BufCore ι
  named : NssCoreId
  numPages : ℕ
  vaddr : ℕ → ℕ
  messages : List Message
  next : ℕ
  requested : ℕ → NssCoreId
  frees : ℕ → ℕ
  calls : ℕ
  busy : ι → Option ℕ

namespace Bufs
variable {ι : Type}

def setCore (s : Bufs ι) (core : NssCoreId) (x : BufCore ι) : Bufs ι :=
  { s with cores := Function.update s.cores core x }

def pages (s : Bufs ι) : List ℕ := (List.range s.numPages).map s.vaddr

/-- The response brings back the sizes of its request. -/
def bufsCfgCallback (x : BufCore ι) (m : Message) (r : NssCmnResponse) : BufCore ι :=
  if r ≠ .NSS_CMN_RESPONSE_ACK then { x with response := NSS_FAILURE, done := x.done + 1 }
  else { x with
    allocated := x.allocated + PAGE_SIZE * m.pages.length
    response := NSS_SUCCESS
    done := x.done + 1 }

def answer (s : Bufs ι) (id : ℕ) (m : Message) (r : NssCmnResponse) : Bufs ι :=
  { s.setCore m.named (bufsCfgCallback (s.cores m.named) m r) with
    messages := s.messages.set id
      { m with status := if r = .NSS_CMN_RESPONSE_ACK then .acked else .refused } }

variable [DecidableEq ι]

def effect (s : Bufs ι) (i : ι) : BufEvent → Bufs ι → Prop
  | .did (.down c), t => (s.cores c).sem = none ∧ t = s.setCore c { s.cores c with sem := some i }
  | .did (.up c), t => t = s.setCore c { s.cores c with sem := none }
  | .did (.init c), t =>
    t = { s with
      named := c
      calls := s.calls + 1
      busy := Function.update s.busy i (some s.calls) }
  | .did (.store slot page), t => t = { s with vaddr := Function.update s.vaddr slot page }
  | .did (.setNumPages n), t => t = { s with numPages := n }
  | .did (.free page), t =>
    t = { s with frees := Function.update s.frees page (s.frees page + 1) }
  | .did (.showAllocated c), t =>
    t = { s.setCore c { s.cores c with size := (s.cores c).allocated } with
      busy := Function.update s.busy i none }
  | .did (.respond id r), t =>
    ∃ m, s.messages[id]? = some m ∧ m.status = .pending ∧ t = s.answer id m r
  | .saw (.procDointvec c write) ret, t =>
    if write = true ∧ ret = (0 : ℤ) then ∃ v, t = s.setCore c { s.cores c with size := v } else t = s
  | .saw (.allocated c) n, t => n = (s.cores c).allocated ∧ t = s
  | .saw (.size c) n, t => n = (s.cores c).size ∧ t = s
  | .saw (.kzalloc c) page, t =>
    match (page : Option ℕ) with
    | none => t = s
    | some p => p = s.next ∧ t = { s with
        next := s.next + 1
        requested := Function.update s.requested p c }
  | .saw (.send c) went, t =>
    t = { s with messages := s.messages ++
      [⟨c, s.named, s.pages, (s.busy i).getD 0, if (went : Bool) then .pending else .unsent⟩] }
  | .saw (.wait c) woken, t =>
    if (woken : Bool) then (s.cores c).done > 0 ∧
      t = s.setCore c { s.cores c with done := (s.cores c).done - 1 }
    else (s.cores c).done = 0 ∧ t = s
  | .saw (.response c) r, t => r = (s.cores c).response ∧ t = s
  | .saw .numPages n, t => n = s.numPages ∧ t = s
  | .saw (.vaddr slot) p, t => p = s.vaddr slot ∧ t = s

end Bufs

/-- Where a caller stands: the pages of the round, how many of them it has freed, and
    the page in its hand. `stray` is an answer that the state does not give. -/
inductive Stage where
  | idle
  | opened (core : NssCoreId)
  | filling (core : NssCoreId) (pages : List ℕ)
  | holding (core : NssCoreId) (pages : List ℕ) (page : ℕ)
  | filled (core : NssCoreId) (pages : List ℕ)
  | sent (core : NssCoreId) (pages : List ℕ)
  | woken (core : NssCoreId) (pages : List ℕ)
  | freeing (core : NssCoreId) (pages : List ℕ) (n : ℕ)
  | picking (core : NssCoreId) (pages : List ℕ) (n : ℕ)
  | picked (core : NssCoreId) (pages : List ℕ) (n page : ℕ)
  | settled (core : NssCoreId)
  | stray
  | wrong

namespace Stage

def onDown (core : NssCoreId) : Stage → Stage
  | .opened c => if c = core then .filling c [] else .wrong
  | .stray => .stray
  | _ => .wrong

def onUp (core : NssCoreId) : Stage → Stage
  | .settled c => if c = core then .opened c else .wrong
  | .stray => .stray
  | _ => .wrong

def onInit (core : NssCoreId) : Stage → Stage
  | .idle => .opened core
  | .stray => .stray
  | _ => .wrong

def onStore (slot page : ℕ) : Stage → Stage
  | .holding c pages p => if slot = pages.length ∧ page = p then .filling c (pages ++ [p]) else .wrong
  | .stray => .stray
  | _ => .wrong

def onNumPages (n : ℕ) : Stage → Stage
  | .filling c pages => if n = pages.length then .filled c pages else .wrong
  | .stray => .stray
  | _ => .wrong

def onFree (page : ℕ) : Stage → Stage
  | .picked c pages n p => if page = p then .freeing c pages (n + 1) else .wrong
  | .stray => .stray
  | _ => .wrong

/-- The last statement about a call, also about one that has not been made. -/
def onShow (core : NssCoreId) : Stage → Stage
  | .idle => .idle
  | .opened c => if c = core then .idle else .wrong
  | .stray => .stray
  | _ => .wrong

def onKzalloc (core : NssCoreId) (page : Option ℕ) : Stage → Stage
  | .filling c pages =>
    if c = core then
      match page with
      | none => .filling c pages
      | some p => .holding c pages p
    else .wrong
  | .stray => .stray
  | _ => .wrong

def onSend (core : NssCoreId) (yes : Bool) : Stage → Stage
  | .filled c pages =>
    if c = core then if yes then .sent c pages else .freeing c pages 0 else .wrong
  | .stray => .stray
  | _ => .wrong

def onWait (core : NssCoreId) (yes : Bool) : Stage → Stage
  | .sent c pages => if c = core then if yes then .woken c pages else .stray else .wrong
  | .stray => .stray
  | _ => .wrong

def onResponse (core : NssCoreId) (r : ℤ) : Stage → Stage
  | .woken c pages =>
    if c = core then if r = NSS_FAILURE then .freeing c pages 0 else .settled c else .wrong
  | .stray => .stray
  | _ => .wrong

/-- The loop that frees asks for the number of pages before each of them. -/
def onCount (n : ℕ) : Stage → Stage
  | .freeing c pages k =>
    if n = pages.length then if k < n then .picking c pages k else .settled c else .stray
  | .stray => .stray
  | _ => .wrong

def onVaddr (slot page : ℕ) : Stage → Stage
  | .picking c pages n => if slot = n then .picked c pages n page else .wrong
  | .stray => .stray
  | _ => .wrong

def step (stage : Stage) : BufEvent → Stage
  | .did (.down c) => stage.onDown c
  | .did (.up c) => stage.onUp c
  | .did (.init c) => stage.onInit c
  | .did (.store slot page) => stage.onStore slot page
  | .did (.setNumPages n) => stage.onNumPages n
  | .did (.free page) => stage.onFree page
  | .did (.showAllocated c) => stage.onShow c
  | .did (.respond _ _) => stage
  | .saw (.procDointvec _ _) _ => stage
  | .saw (.allocated _) _ => stage
  | .saw (.size _) _ => stage
  | .saw (.kzalloc c) page => stage.onKzalloc c page
  | .saw .bug _ => stage
  | .saw (.send c) yes => stage.onSend c yes
  | .saw (.wait c) yes => stage.onWait c yes
  | .saw (.response c) r => stage.onResponse c r
  | .saw .numPages n => stage.onCount n
  | .saw (.vaddr slot) page => stage.onVaddr slot page

end Stage

def Right (stage : Stage) : Prop := stage ≠ .wrong

/-- What a call or a part of one comes to, or an answer that the state does not give. -/
def Ends {α : Type} (now : Stage → Prop) (_ : α) (stage : Stage) : Prop := now stage ∨ stage = .stray

section Staged
variable {α : Type} {core : NssCoreId} {Q : α → Stage → Prop}

theorem stray_always (hQ : ∀ a, Q a .stray) (p : BufCall α) :
    Always Stage.step Right Q p .stray := by
  refine always_stuck (fun e => ?_) nofun hQ p
  match e with
  | .did (.down c) => rfl
  | .did (.up c) => rfl
  | .did (.init c) => rfl
  | .did (.store slot page) => rfl
  | .did (.setNumPages n) => rfl
  | .did (.free page) => rfl
  | .did (.showAllocated c) => rfl
  | .did (.respond id r) => rfl
  | .saw (.procDointvec c write) ret => rfl
  | .saw (.allocated c) n => rfl
  | .saw (.size c) n => rfl
  | .saw (.kzalloc c) page => rfl
  | .saw .bug a => exact a.elim
  | .saw (.send c) went => rfl
  | .saw (.wait c) woken => rfl
  | .saw (.response c) r => rfl
  | .saw .numPages n => rfl
  | .saw (.vaddr slot) page => rfl

theorem allocPages_staged (room pages rest : ℕ) (ps : List ℕ) (hcount : ps.length = pages) :
    Always Stage.step Right
      (fun a stage => ∃ qs, stage = .filling core qs ∧ qs.length = a.1 ∧ a.1 ≤ pages + room)
      (allocPages core room pages rest) (.filling core ps) := by
  induction room generalizing pages rest ps with
  | zero => exact .ret nofun ⟨ps, rfl, hcount, Nat.le_refl _⟩
  | succ room ih =>
    cases rest with
    | zero => exact .ret nofun ⟨ps, rfl, hcount, Nat.le_add_right _ _⟩
    | succ rest =>
      refine .ask nofun fun page => ?_
      cases page with
      | none =>
        have hstage : Stage.step (.filling core ps) (.saw (.kzalloc core) (none : Option ℕ)) =
            .filling core ps := if_pos rfl
        refine .of_eq hstage (.ite (fun _ => .ask nofun nofun) fun _ => ?_)
        exact .ret nofun ⟨ps, rfl, hcount, Nat.le_add_right _ _⟩
      | some page =>
        have hstage : Stage.step (.filling core ps) (.saw (.kzalloc core) (some page)) =
            .holding core ps page := if_pos rfl
        have hnext : Stage.step (.holding core ps page) (.did (.store pages page)) =
            .filling core (ps ++ [page]) := if_pos ⟨hcount.symm, rfl⟩
        have hlength : (ps ++ [page]).length = pages + 1 := by
          rw [List.length_append, hcount]
          rfl
        refine .of_eq hstage (.tell nofun (.of_eq hnext ?_))
        have hloop := ih (pages + 1) rest _ hlength
        rw [Nat.add_right_comm] at hloop
        exact hloop

theorem freePages_staged (room n : ℕ) (ps : List ℕ) (hn : n ≤ ps.length)
    (hroom : ps.length < n + room) :
    Always Stage.step Right (Ends (· = .settled core)) (freePages room n) (.freeing core ps n) := by
  induction room generalizing n with
  | zero => omega
  | succ room ih =>
    refine .ask nofun fun count => ?_
    show Always _ _ _ _ (Stage.onCount count (.freeing core ps n))
    unfold Stage.onCount
    dsimp only
    by_cases hcount : count = ps.length
    · rw [if_pos hcount]
      by_cases hmore : n < count
      · rw [if_pos hmore]
        refine .ite (fun _ => .ask nofun fun page => ?_) fun h => absurd hmore h
        have hpicked : Stage.step (.picking core ps n) (.saw (.vaddr n) page) =
            .picked core ps n page := if_pos rfl
        have hfreed : Stage.step (.picked core ps n page) (.did (.free page)) =
            .freeing core ps (n + 1) := if_pos rfl
        rw [hcount] at hmore
        have hnext : ps.length < n + 1 + room := by omega
        exact .of_eq hpicked (.tell nofun (.of_eq hfreed (ih (n + 1) hmore hnext)))
      · rw [if_neg hmore]
        exact .ite (fun h => absurd h hmore) fun _ => .ret nofun (.inl rfl)
    · rw [if_neg hcount]
      exact stray_always (fun _ => .inr rfl) _

theorem failBufPool_staged :
    Always Stage.step Right (Ends (· = .opened core)) (failBufPool core) (.settled core) := by
  have hup : Stage.step (.settled core) (.did (.up core)) = .opened core := if_pos rfl
  exact .tell nofun (.of_eq hup (.ret nofun (.inl rfl)))

theorem freeAll_staged {ps : List ℕ} (hps : ps.length ≤ MAX_PAGES_PER_MSG) :
    Always Stage.step Right (Ends (· = .opened core))
      (nssN2hBufPoolFree >>= fun _ => failBufPool core) (.freeing core ps 0) := by
  refine .bind (freePages_staged _ 0 ps (Nat.zero_le _) (by omega)) ?_
  rintro _ stage (rfl | rfl)
  · exact failBufPool_staged
  · exact stray_always (fun _ => .inr rfl) _

theorem sendRounds_staged (rounds pages : ℕ) :
    Always Stage.step Right (Ends (· = .opened core)) (sendRounds core rounds pages)
      (.opened core) := by
  induction rounds generalizing pages with
  | zero => exact .ret nofun (.inl rfl)
  | succ rounds ih =>
    have hdown : Stage.step (.opened core) (.did (.down core)) = .filling core [] := if_pos rfl
    refine .tell nofun (.of_eq hdown ?_)
    refine Always.bind (p := allocPages core MAX_PAGES_PER_MSG 0 pages)
      (allocPages_staged _ 0 pages [] rfl) ?_
    rintro ⟨count, rest⟩ _ ⟨ps, rfl, hlength, hmax⟩
    dsimp only at hlength hmax
    have hps : ps.length ≤ MAX_PAGES_PER_MSG := by omega
    have hfilled : Stage.step (.filling core ps) (.did (.setNumPages count)) = .filled core ps :=
      if_pos hlength.symm
    refine .tell nofun (.of_eq hfilled (.ask nofun fun went => ?_))
    cases went with
    | false =>
      have hunsent : Stage.step (.filled core ps) (.saw (.send core) false) =
          .freeing core ps 0 := if_pos rfl
      exact .of_eq hunsent (freeAll_staged hps)
    | true =>
      have hsent : Stage.step (.filled core ps) (.saw (.send core) true) = .sent core ps :=
        if_pos rfl
      refine .of_eq hsent (.ask nofun fun woken => ?_)
      cases woken with
      | false =>
        have hlate : Stage.step (.sent core ps) (.saw (.wait core) false) = .stray := if_pos rfl
        exact .of_eq hlate (stray_always (fun _ => .inr rfl) _)
      | true =>
        have hwoken : Stage.step (.sent core ps) (.saw (.wait core) true) = .woken core ps :=
          if_pos rfl
        refine .of_eq hwoken (.ask nofun fun r => ?_)
        have hresponse : Stage.step (.woken core ps) (.saw (.response core) r) =
            if r = NSS_FAILURE then .freeing core ps 0 else .settled core := if_pos rfl
        refine .of_eq hresponse ?_
        by_cases hr : r = NSS_FAILURE
        · rw [if_pos hr]
          exact .ite (fun _ => freeAll_staged hps) fun h => absurd hr h
        · rw [if_neg hr]
          refine .ite (fun h => absurd h hr) fun _ => ?_
          have hup : Stage.step (.settled core) (.did (.up core)) = .opened core := if_pos rfl
          refine .tell nofun (.of_eq hup (.ite (fun _ => ih rest) fun _ => ?_))
          exact .ret nofun (.inl rfl)

theorem bufCfgHandler_staged (core : NssCoreId) (write : Bool) :
    Always Stage.step Right (Ends (· = .idle)) (bufCfgHandler core write) .idle := by
  refine .ask nofun fun ret => .ite (fun _ => .ret nofun (.inl rfl)) fun _ => ?_
  refine .ite (fun _ => .ret nofun (.inl rfl)) fun _ => .ask nofun fun n => ?_
  refine .ite (fun _ => .tell nofun (.ret nofun (.inl rfl))) fun _ => .ask nofun fun requested => ?_
  refine .ite (fun _ => .ask nofun fun bytes => .tell nofun ?_) fun _ => .ret nofun (.inl rfl)
  refine .bind (sendRounds_staged _ _) ?_
  rintro ret stage (rfl | rfl)
  · have hshow : Stage.step (.opened core) (.did (.showAllocated core)) = .idle := if_pos rfl
    exact .tell nofun (.of_eq hshow (.ret nofun (.inl rfl)))
  · exact stray_always (fun _ => .inr rfl) _

theorem calls_staged {p : BufCall ℤ} (h : BufCalls p) :
    Always Stage.step Right (Ends (· = .idle)) p .idle := by
  cases h with
  | core0 write => exact bufCfgHandler_staged _ write
  | core1 write => exact bufCfgHandler_staged _ write
  | respond id r => exact .tell nofun (.ret nofun (.inl rfl))

end Staged

end NssDrv.BufferPool
