import Mathlib.Data.List.Basic

set_option autoImplicit false

/-!
# Reading a text of records page by page

Records that consist of a header, rows and sometimes a footer are copied into
pages of one size. A page breaks off at a line that it has no room for, and the
next one begins at the header of a record.
-/
namespace NssDrv.PagedText

/-- Headers and footers begin with `mark`, and rows do not. -/
structure Entry {α : Type} (mark : α) where
  header : List α
  rows : List (List α)
  footer : Option (List α)
  header_mark : header.head? = some mark
  rows_mark : ∀ row ∈ rows, ∃ c, row.head? = some c ∧ c ≠ mark
  footer_mark : ∀ f, footer = some f → f.head? = some mark
  footer_le : ∀ f, footer = some f → f.length ≤ header.length
  footer_apart : ∀ f, footer = some f → ∀ x y, header ++ x ≠ f ++ y

section Entries
variable {α : Type} {mark : α}

def Entry.text (e : Entry mark) : List α := e.header ++ (e.rows.flatten ++ e.footer.getD [])

def texts (es : List (Entry mark)) : List α := es.flatMap Entry.text

def copyRows (sz : ℕ) : List (List α) → List α → List α
  | [], out => out
  | row :: rest, out =>
    if out.length < sz then
      if out.length + row.length > sz then out else copyRows sz rest (out ++ row)
    else out

/-- One page, and the records from which the next one begins. -/
def fill (sz : ℕ) : List (Entry mark) → List α → List α × List (Entry mark)
  | [], out => (out, [])
  | e :: rest, out =>
    if out.length + e.header.length > sz then (out, e :: rest)
    else
      let out := copyRows sz e.rows (out ++ e.header)
      match e.footer with
      | none => fill sz rest out
      | some f =>
        if out.length > sz - f.length then (out, e :: rest) else fill sz rest (out ++ f)

inductive Session (sz : ℕ) : List (Entry mark) → List (List α) → Prop where
  | last {es es' : List (Entry mark)} (h : fill sz es [] = ([], es')) : Session sz es []
  | page {es es' : List (Entry mark)} {out : List α} {outs : List (List α)}
      (h : fill sz es [] = (out, es')) (some : out ≠ []) (rest : Session sz es' outs) :
      Session sz es (out :: outs)

/-- Where a page has room for a header it has room for the whole record, and a page that is
    full leaves off between two records. -/
def NeverSplit (sz : ℕ) : ℕ → List (Entry mark) → Prop
  | _, [] => True
  | used, e :: rest =>
    if used + e.header.length > sz then e.text.length ≤ sz ∧ NeverSplit sz e.text.length rest
    else used + e.text.length ≤ sz ∧ NeverSplit sz (used + e.text.length) rest

instance decidableNeverSplit (sz : ℕ) :
    (used : ℕ) → (es : List (Entry mark)) → Decidable (NeverSplit sz used es)
  | _, [] => .isTrue trivial
  | used, e :: rest =>
    have := decidableNeverSplit sz e.text.length rest
    have := decidableNeverSplit sz (used + e.text.length) rest
    inferInstanceAs (Decidable (if used + e.header.length > sz then
      e.text.length ≤ sz ∧ NeverSplit sz e.text.length rest
      else used + e.text.length ≤ sz ∧ NeverSplit sz (used + e.text.length) rest))

variable {sz : ℕ} {e : Entry mark} {es es' rest : List (Entry mark)} {out out' later : List α}
  {outs : List (List α)} {rows : List (List α)}

theorem texts_cons : texts (e :: rest) = e.text ++ texts rest := List.flatMap_cons

theorem header_le_text (e : Entry mark) : e.header.length ≤ e.text.length := by
  unfold Entry.text
  rw [List.length_append]
  omega

theorem Entry.header_ne (e : Entry mark) : e.header ≠ [] := by
  intro hnil
  have hmark := e.header_mark
  rw [hnil] at hmark
  cases hmark

/-- Rows are copied from the front, and all of them unless there is no room for the next. -/
theorem copyRows_split (sz : ℕ) (hrows : ∀ row ∈ rows, row ≠ []) (out : List α) :
    ∃ pre post, rows = pre ++ post ∧ copyRows sz rows out = out ++ pre.flatten ∧
      ∀ row ∈ post.head?, sz < (out ++ pre.flatten).length + row.length := by
  induction rows generalizing out with
  | nil => exact ⟨[], [], rfl, (List.append_nil out).symm, nofun⟩
  | cons row rows ih =>
    have hpos : 0 < row.length := List.length_pos_iff.mpr (hrows row List.mem_cons_self)
    unfold copyRows
    by_cases hroom : out.length < sz
    · rw [if_pos hroom]
      by_cases hfull : out.length + row.length > sz
      · rw [if_pos hfull]
        refine ⟨[], row :: rows, rfl, (List.append_nil out).symm, ?_⟩
        intro row' hrow
        rw [← Option.some.inj hrow, List.flatten_nil, List.append_nil]
        exact hfull
      · rw [if_neg hfull]
        obtain ⟨pre, post, hsplit, hcopy, hnext⟩ :=
          ih (fun r hr => hrows r (List.mem_cons_of_mem _ hr)) (out ++ row)
        refine ⟨row :: pre, post, ?_, ?_, ?_⟩
        · rw [hsplit]
          rfl
        · rw [hcopy, List.flatten_cons, List.append_assoc]
        · rw [List.flatten_cons, ← List.append_assoc]
          exact hnext
    · rw [if_neg hroom]
      refine ⟨[], row :: rows, rfl, (List.append_nil out).symm, ?_⟩
      intro row' hrow
      rw [← Option.some.inj hrow, List.flatten_nil, List.append_nil]
      omega

theorem copyRows_bounded (h : out.length ≤ sz) : (copyRows sz rows out).length ≤ sz := by
  induction rows generalizing out with
  | nil => exact h
  | cons row rows ih =>
    unfold copyRows
    split
    · split
      · exact h
      · apply ih
        rw [List.length_append]
        omega
    · exact h

theorem fill_bounded (h : out.length ≤ sz) : (fill sz es out).1.length ≤ sz := by
  induction es generalizing out with
  | nil => exact h
  | cons e rest ih =>
    unfold fill
    by_cases hfull : out.length + e.header.length > sz
    · rw [if_pos hfull]
      exact h
    · rw [if_neg hfull]
      have hrows : (copyRows sz e.rows (out ++ e.header)).length ≤ sz := by
        apply copyRows_bounded
        rw [List.length_append]
        omega
      cases hfooter : e.footer with
      | none => exact ih hrows
      | some f =>
        have hle := e.footer_le f hfooter
        dsimp only
        split
        · exact hrows
        · apply ih
          rw [List.length_append]
          omega

theorem Entry.rows_ne (e : Entry mark) : ∀ row ∈ e.rows, row ≠ [] := by
  rintro row hrow rfl
  obtain ⟨c, hc, -⟩ := e.rows_mark [] hrow
  cases hc

/-- The rows before `post` are on the page, and there is no room for the one after them. -/
structure Copied (sz : ℕ) (e : Entry mark) (out : List α) (pre post : List (List α)) : Prop where
  room : out.length + e.header.length ≤ sz
  split : e.rows = pre ++ post
  next : ∀ row ∈ post.head?, sz < (out ++ (e.header ++ pre.flatten)).length + row.length
  fits : (out ++ (e.header ++ pre.flatten)).length ≤ sz

/-- What becomes of a record on a page with `out`. -/
inductive FillStep (sz : ℕ) (e : Entry mark) (rest : List (Entry mark)) (out : List α) :
    List α × List (Entry mark) → Prop where
  | full (h : out.length + e.header.length > sz) : FillStep sz e rest out (out, e :: rest)
  | bare (pre post : List (List α)) (copied : Copied sz e out pre post) (none : e.footer = none) :
      FillStep sz e rest out (fill sz rest (out ++ (e.header ++ pre.flatten)))
  | broken (pre post : List (List α)) (f : List α) (copied : Copied sz e out pre post)
      (some : e.footer = some f)
      (long : (out ++ (e.header ++ pre.flatten)).length + f.length > sz) :
      FillStep sz e rest out (out ++ (e.header ++ pre.flatten), e :: rest)
  | closed (pre post : List (List α)) (f : List α) (copied : Copied sz e out pre post)
      (some : e.footer = some f)
      (fits : (out ++ (e.header ++ pre.flatten)).length + f.length ≤ sz) :
      FillStep sz e rest out (fill sz rest (out ++ (e.header ++ (pre.flatten ++ f))))

theorem fill_step (sz : ℕ) (e : Entry mark) (rest : List (Entry mark)) (out : List α) :
    FillStep sz e rest out (fill sz (e :: rest) out) := by
  obtain ⟨pre, post, hsplit, hcopy, hnext⟩ := copyRows_split sz e.rows_ne (out ++ e.header)
  rw [List.append_assoc] at hcopy hnext
  unfold fill
  by_cases hfull : out.length + e.header.length > sz
  · rw [if_pos hfull]
    exact .full hfull
  · rw [if_neg hfull]
    have hfits : (copyRows sz e.rows (out ++ e.header)).length ≤ sz := by
      apply copyRows_bounded
      rw [List.length_append]
      omega
    rw [hcopy] at hfits ⊢
    have hcopied : Copied sz e out pre post := ⟨by omega, hsplit, hnext, hfits⟩
    cases hfooter : e.footer with
    | none => exact .bare pre post hcopied hfooter
    | some f =>
      have hle := e.footer_le f hfooter
      dsimp only
      by_cases hlong : (out ++ (e.header ++ pre.flatten)).length > sz - f.length
      · rw [if_pos hlong]
        exact .broken pre post f hcopied hfooter (by omega)
      · rw [if_neg hlong, List.append_assoc, List.append_assoc]
        exact .closed pre post f hcopied hfooter (by omega)

theorem fill_append (sz : ℕ) (es : List (Entry mark)) (out : List α) :
    ∃ t, (fill sz es out).1 = out ++ t := by
  induction es generalizing out with
  | nil => exact ⟨[], (List.append_nil out).symm⟩
  | cons e rest ih =>
    have hstep := fill_step sz e rest out
    generalize fill sz (e :: rest) out = filled at hstep
    cases hstep with
    | full => exact ⟨[], (List.append_nil out).symm⟩
    | broken pre => exact ⟨e.header ++ pre.flatten, rfl⟩
    | bare pre =>
      obtain ⟨t, ht⟩ := ih (out ++ (e.header ++ pre.flatten))
      exact ⟨e.header ++ pre.flatten ++ t, by rw [ht, List.append_assoc]⟩
    | closed pre post f =>
      obtain ⟨t, ht⟩ := ih (out ++ (e.header ++ (pre.flatten ++ f)))
      exact ⟨e.header ++ (pre.flatten ++ f) ++ t, by rw [ht, List.append_assoc]⟩

theorem fill_header (hfit : out.length + e.header.length ≤ sz) (rest : List (Entry mark)) :
    ∃ t, (fill sz (e :: rest) out).1 = out ++ (e.header ++ t) := by
  have hstep := fill_step sz e rest out
  generalize fill sz (e :: rest) out = filled at hstep ⊢
  cases hstep with
  | full hfull => omega
  | broken pre => exact ⟨pre.flatten, rfl⟩
  | bare pre =>
    obtain ⟨t, ht⟩ := fill_append sz rest (out ++ (e.header ++ pre.flatten))
    exact ⟨pre.flatten ++ t, by rw [ht, List.append_assoc, List.append_assoc]⟩
  | closed pre post f =>
    obtain ⟨t, ht⟩ := fill_append sz rest (out ++ (e.header ++ (pre.flatten ++ f)))
    exact ⟨pre.flatten ++ f ++ t, by rw [ht, List.append_assoc, List.append_assoc]⟩

/-- What later pages add where the page before them left `es`. -/
def Follows : List (Entry mark) → List α → Prop
  | [], later => later = []
  | e :: _, later => ∃ t, later = e.header ++ t

/-- Nothing, or what a header or a footer begins. -/
def Marked (mark : α) (z : List α) : Prop := z = [] ∨ z.head? = some mark

theorem marked_append {z : List α} (h : z.head? = some mark) (t : List α) :
    Marked mark (z ++ t) := by
  right
  rw [List.head?_append, h]
  rfl

theorem Follows.marked (h : Follows es later) : Marked mark later := by
  cases es with
  | nil => exact .inl h
  | cons e rest =>
    obtain ⟨t, rfl⟩ := h
    exact marked_append e.header_mark t

theorem Marked.ne_row {z row : List α} (h : Marked mark z) (hrow : row ∈ e.rows) (t : List α) :
    z ≠ row ++ t := by
  rintro rfl
  obtain ⟨c, hc, hne⟩ := e.rows_mark row hrow
  have hhead : (row ++ t).head? = some c := by
    rw [List.head?_append, hc]
    rfl
  rcases h with hnil | hmark
  · rw [hnil] at hhead
    cases hhead
  · exact hne (Option.some.inj (hhead.symm.trans hmark))

/-- What comes behind `out`, on its page and on later ones. -/
theorem fill_follows (es : List (Entry mark)) (out : List α)
    (h : Follows (fill sz es out).2 later) :
    ∃ z, (fill sz es out).1 ++ later = out ++ z ∧ Marked mark z := by
  cases es with
  | nil => exact ⟨later, rfl, .inl h⟩
  | cons e rest =>
    have hstep := fill_step sz e rest out
    generalize fill sz (e :: rest) out = filled at hstep h
    cases hstep with
    | full => exact ⟨later, rfl, h.marked⟩
    | broken pre =>
      refine ⟨e.header ++ (pre.flatten ++ later), by simp, marked_append e.header_mark _⟩
    | bare pre =>
      obtain ⟨t, ht⟩ := fill_append sz rest (out ++ (e.header ++ pre.flatten))
      refine ⟨e.header ++ (pre.flatten ++ t ++ later), ?_, marked_append e.header_mark _⟩
      rw [ht]
      simp
    | closed pre post f =>
      obtain ⟨t, ht⟩ := fill_append sz rest (out ++ (e.header ++ (pre.flatten ++ f)))
      refine ⟨e.header ++ (pre.flatten ++ f ++ t ++ later), ?_, marked_append e.header_mark _⟩
      rw [ht]
      simp

theorem neverSplit_full {used : ℕ} (hfull : used + e.header.length > sz) :
    NeverSplit sz used (e :: rest) ↔ e.text.length ≤ sz ∧ NeverSplit sz e.text.length rest := by
  rw [NeverSplit, if_pos hfull]

theorem neverSplit_room {used : ℕ} (hroom : used + e.header.length ≤ sz) :
    NeverSplit sz used (e :: rest) ↔
      used + e.text.length ≤ sz ∧ NeverSplit sz (used + e.text.length) rest := by
  rw [NeverSplit, if_neg (by omega)]

theorem neverSplit_zero (hfit : e.header.length ≤ sz) :
    NeverSplit sz 0 (e :: rest) ↔ e.text.length ≤ sz ∧ NeverSplit sz e.text.length rest := by
  rw [neverSplit_room (by omega), Nat.zero_add]

theorem Copied.text {pre post : List (List α)} (h : Copied sz e out pre post) :
    e.text = e.header ++ (pre.flatten ++ (post.flatten ++ e.footer.getD [])) := by
  unfold Entry.text
  rw [h.split, List.flatten_append, List.append_assoc]

theorem neverSplit_of_read (out : List α) (hfit : ∀ e ∈ es, e.header.length ≤ sz)
    (hfollows : Follows (fill sz es out).2 later)
    (htext : (fill sz es out).1 ++ later = out ++ texts es)
    (hlater : later = texts (fill sz es out).2 → NeverSplit sz 0 (fill sz es out).2) :
    NeverSplit sz out.length es := by
  induction es generalizing out with
  | nil => trivial
  | cons e rest ih =>
    have hhead := hfit e List.mem_cons_self
    have hstep := fill_step sz e rest out
    generalize fill sz (e :: rest) out = filled at hstep hfollows htext hlater
    rw [texts_cons] at htext
    cases hstep with
    | full hfull =>
      rw [neverSplit_full hfull, ← neverSplit_zero hhead]
      exact hlater (List.append_cancel_left htext)
    | bare pre post copied none =>
      cases post with
      | nil =>
        have hwhole : e.header ++ pre.flatten = e.text := by
          rw [copied.text, none, List.flatten_nil, List.nil_append, Option.getD_none, List.append_nil]
        have hfits := copied.fits
        rw [hwhole] at hfollows htext hlater hfits
        rw [← List.append_assoc] at htext
        rw [neverSplit_room copied.room, ← List.length_append]
        exact ⟨hfits, ih _ (fun e' he' => hfit e' (List.mem_cons_of_mem _ he')) hfollows htext hlater⟩
      | cons row post =>
        -- the row is missing, and something else stands in its place
        obtain ⟨z, hz, hmarked⟩ := fill_follows rest _ hfollows
        have hrow : row ∈ e.rows := by
          rw [copied.split]
          exact List.mem_append_right _ List.mem_cons_self
        rw [hz, copied.text, List.flatten_cons] at htext
        simp only [List.append_assoc, List.append_cancel_left_eq] at htext
        exact absurd htext (hmarked.ne_row hrow _)
    | broken pre post f copied some long =>
      obtain ⟨t, rfl⟩ := hfollows
      rw [copied.text, some, Option.getD_some] at htext
      cases post with
      | nil =>
        simp only [List.append_assoc, List.append_cancel_left_eq, List.flatten_nil,
          List.nil_append] at htext
        exact absurd htext (e.footer_apart f some _ _)
      | cons row post =>
        have hrow : row ∈ e.rows := by
          rw [copied.split]
          exact List.mem_append_right _ List.mem_cons_self
        rw [List.flatten_cons] at htext
        simp only [List.append_assoc, List.append_cancel_left_eq] at htext
        exact absurd htext ((marked_append e.header_mark t).ne_row hrow _)
    | closed pre post f copied some fits =>
      cases post with
      | nil =>
        have hwhole : e.header ++ (pre.flatten ++ f) = e.text := by
          rw [copied.text, some, List.flatten_nil, List.nil_append, Option.getD_some]
        have hfits : out.length + e.text.length ≤ sz := by
          rw [← hwhole]
          simp only [List.length_append] at fits ⊢
          omega
        rw [hwhole] at hfollows htext hlater
        rw [← List.append_assoc] at htext
        rw [neverSplit_room copied.room, ← List.length_append]
        rw [← List.length_append] at hfits
        exact ⟨hfits, ih _ (fun e' he' => hfit e' (List.mem_cons_of_mem _ he')) hfollows htext hlater⟩
      | cons row post =>
        obtain ⟨z, hz, -⟩ := fill_follows rest _ hfollows
        have hrow : row ∈ e.rows := by
          rw [copied.split]
          exact List.mem_append_right _ List.mem_cons_self
        rw [hz, copied.text, List.flatten_cons] at htext
        simp only [List.append_assoc, List.append_cancel_left_eq] at htext
        exact absurd htext ((marked_append (e.footer_mark f some) z).ne_row hrow _)

theorem mem_of_fill (out : List α) (h : e ∈ (fill sz es out).2) : e ∈ es := by
  induction es generalizing out with
  | nil => exact h
  | cons e' rest ih =>
    have hstep := fill_step sz e' rest out
    generalize fill sz (e' :: rest) out = filled at hstep h
    cases hstep with
    | full => exact h
    | bare => exact List.mem_cons_of_mem _ (ih _ h)
    | broken => exact h
    | closed => exact List.mem_cons_of_mem _ (ih _ h)

theorem Session.follows (h : Session sz es outs) (hfit : ∀ e ∈ es, e.header.length ≤ sz) :
    Follows es outs.flatten := by
  cases es with
  | nil =>
    cases h with
    | last => rfl
    | page hfill some =>
      obtain ⟨rfl, -⟩ := Prod.mk.inj hfill
      exact absurd rfl some
  | cons e rest =>
    have hroom : ([] : List α).length + e.header.length ≤ sz := by
      rw [List.length_nil, Nat.zero_add]
      exact hfit e List.mem_cons_self
    obtain ⟨t, ht⟩ := fill_header hroom rest
    cases h with
    | last hfill =>
      rw [hfill, List.nil_append] at ht
      exact absurd (List.append_eq_nil_iff.mp ht.symm).1 e.header_ne
    | @page _ _ out outs hfill =>
      rw [hfill, List.nil_append] at ht
      refine ⟨t ++ outs.flatten, ?_⟩
      rw [List.flatten_cons, ← List.append_assoc]
      exact congrArg (· ++ outs.flatten) ht

theorem neverSplit_of_session (h : Session sz es outs) (hfit : ∀ e ∈ es, e.header.length ≤ sz)
    (htext : outs.flatten = texts es) : NeverSplit sz 0 es := by
  induction h with
  | @last es es' hfill =>
    cases es with
    | nil => trivial
    | cons e rest =>
      rw [texts_cons, Entry.text, List.append_assoc] at htext
      exact absurd (List.append_eq_nil_iff.mp htext.symm).1 e.header_ne
  | @page es es' out outs hfill some later ih =>
    have hrest : ∀ e ∈ es', e.header.length ≤ sz := by
      intro e he
      apply hfit e
      apply mem_of_fill []
      rw [hfill]
      exact he
    have hfollows := later.follows hrest
    have hsplit := @neverSplit_of_read _ _ sz es outs.flatten [] hfit
    rw [hfill] at hsplit
    exact hsplit hfollows htext (ih hrest)

theorem Copied.whole {pre post : List (List α)} (h : Copied sz e out pre post)
    (hfit : out.length + e.text.length ≤ sz) : post = [] := by
  cases post with
  | nil => rfl
  | cons row post =>
    have hnext := h.next row rfl
    rw [h.text, List.flatten_cons] at hfit
    simp only [List.length_append] at hfit hnext
    omega

/-- Records that need not be split are read whole, and the next page goes on behind them. -/
theorem fill_whole (out : List α) (h : NeverSplit sz out.length es) :
    ∃ pre, es = pre ++ (fill sz es out).2 ∧ (fill sz es out).1 = out ++ texts pre ∧
      NeverSplit sz 0 (fill sz es out).2 := by
  induction es generalizing out with
  | nil => exact ⟨[], rfl, (List.append_nil out).symm, trivial⟩
  | cons e rest ih =>
    have hstep := fill_step sz e rest out
    generalize fill sz (e :: rest) out = filled at hstep ⊢
    cases hstep with
    | full hfull =>
      rw [neverSplit_full hfull] at h
      exact ⟨[], rfl, (List.append_nil out).symm,
        (neverSplit_zero (Nat.le_trans (header_le_text e) h.1)).mpr h⟩
    | bare pre post copied none =>
      obtain ⟨hfit, hrest⟩ := (neverSplit_room copied.room).mp h
      obtain rfl := copied.whole hfit
      have hwhole : e.header ++ pre.flatten = e.text := by
        rw [copied.text, none, List.flatten_nil, List.nil_append, Option.getD_none, List.append_nil]
      rw [← List.length_append] at hrest
      obtain ⟨before, hes, hread, hnext⟩ := ih _ hrest
      rw [hwhole]
      refine ⟨e :: before, congrArg (e :: ·) hes, ?_, hnext⟩
      rw [hread, texts_cons, List.append_assoc]
    | broken pre post f copied some long =>
      obtain ⟨hfit, -⟩ := (neverSplit_room copied.room).mp h
      obtain rfl := copied.whole hfit
      rw [copied.text, some, List.flatten_nil, List.nil_append, Option.getD_some] at hfit
      simp only [List.length_append] at hfit long
      omega
    | closed pre post f copied some fits =>
      obtain ⟨hfit, hrest⟩ := (neverSplit_room copied.room).mp h
      obtain rfl := copied.whole hfit
      have hwhole : e.header ++ (pre.flatten ++ f) = e.text := by
        rw [copied.text, some, List.flatten_nil, List.nil_append, Option.getD_some]
      rw [← List.length_append] at hrest
      obtain ⟨before, hes, hread, hnext⟩ := ih _ hrest
      rw [hwhole]
      refine ⟨e :: before, congrArg (e :: ·) hes, ?_, hnext⟩
      rw [hread, texts_cons, List.append_assoc]

theorem session_of_neverSplit (es : List (Entry mark)) (h : NeverSplit sz 0 es) :
    ∃ outs, Session sz es outs ∧ outs.flatten = texts es := by
  cases es with
  | nil => exact ⟨[], .last rfl, rfl⟩
  | cons e rest =>
    have hroom : ([] : List α).length + e.header.length ≤ sz := by
      by_contra hfull
      have hwhole := ((neverSplit_full (Nat.lt_of_not_le hfull)).mp h).1
      have hle := header_le_text e
      rw [List.length_nil] at hfull
      omega
    obtain ⟨t, ht⟩ := fill_header hroom rest
    obtain ⟨pre, hes, hread, hnext⟩ := fill_whole [] h
    generalize hfill : fill sz (e :: rest) [] = filled at ht hes hread hnext
    obtain ⟨out, es'⟩ := filled
    rw [List.nil_append] at ht hread
    dsimp only at ht hes hread hnext
    have hsome : out ≠ [] := by
      rw [ht]
      exact fun hnil => e.header_ne (List.append_eq_nil_iff.mp hnil).1
    have hpos : 0 < pre.length := by
      rw [List.length_pos_iff]
      rintro rfl
      exact hsome hread
    have hshorter : es'.length < (e :: rest).length := by
      have hlength := congrArg List.length hes
      rw [List.length_append] at hlength
      omega
    obtain ⟨outs, hsession, htext⟩ := session_of_neverSplit es' hnext
    refine ⟨out :: outs, .page hfill hsome hsession, ?_⟩
    rw [List.flatten_cons, htext, hread, hes]
    exact List.flatMap_append.symm
  termination_by es.length

/-- The records are read, each of them once and whole, exactly where none has to be split. -/
theorem session_iff (hfit : ∀ e ∈ es, e.header.length ≤ sz) :
    (∃ outs, Session sz es outs ∧ outs.flatten = texts es) ↔ NeverSplit sz 0 es := by
  constructor
  · rintro ⟨outs, hsession, htext⟩
    exact neverSplit_of_session hsession hfit htext
  · exact session_of_neverSplit es

end Entries
end NssDrv.PagedText
