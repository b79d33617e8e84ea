import Mathlib.Data.Nat.Notation
import Mathlib.Algebra.Order.Ring.Nat
import Mathlib.Tactic.Ring

/-!
# Functions that are fed with pieces of a stream

A fallible function with a state `Streams` when it does not matter into which pieces its input is
cut: on a valid state and a piece of whole groups it succeeds, its output grows in proportion, and
feeding two pieces one after the other is feeding them at once.  Such functions are built from steps
(`streams_feed`) and put after each other (`Streams.andThen`).
-/

set_option autoImplicit false

namespace HydraSdr.Computation

variable {ε σ τ ι α β γ : Type}

/-! ## Steps -/

/-- Take the items one after the other; the outputs are concatenated. -/
def feed (step : σ → ι → Except ε (σ × List β)) : σ → List ι → Except ε (σ × List β)
  | s, [] => .ok (s, [])
  | s, item :: items =>
    match step s item with
    | .error e => .error e
    | .ok (s, first) => (feed step s items).map fun (s, rest) => (s, first ++ rest)

@[simp] theorem feed_nil (step : σ → ι → Except ε (σ × List β)) (s : σ) :
    feed step s [] = .ok (s, []) := rfl

theorem feed_cons_ok {step : σ → ι → Except ε (σ × List β)} {s s' : σ} {item : ι}
    {first : List β} (h : step s item = .ok (s', first)) (items : List ι) :
    feed step s (item :: items) = (feed step s' items).map fun (s, rest) => (s, first ++ rest) := by
  rw [feed, h]

/-- What a successful feed has done with its first item. -/
theorem feed_cons_inv {step : σ → ι → Except ε (σ × List β)} {s s' : σ} {item : ι} {items : List ι}
    {out : List β} (h : feed step s (item :: items) = .ok (s', out)) :
    ∃ s₁ first rest, step s item = .ok (s₁, first) ∧ feed step s₁ items = .ok (s', rest) ∧
      out = first ++ rest := by
  rw [feed] at h
  cases hstep : step s item with
  | error e =>
    rw [hstep] at h
    exact nomatch h
  | ok outcome =>
    rw [hstep] at h
    dsimp only at h
    cases hrest : feed step outcome.1 items with
    | error e =>
      rw [hrest] at h
      exact nomatch h
    | ok outcome' =>
      rw [hrest] at h
      obtain ⟨rfl, rfl⟩ := Prod.mk.inj (Except.ok.inj h)
      exact ⟨outcome.1, outcome.2, outcome'.2, rfl, hrest, rfl⟩

theorem feed_append {step : σ → ι → Except ε (σ × List β)} {s s' : σ} {items : List ι}
    {out : List β} (h : feed step s items = .ok (s', out)) (more : List ι) :
    feed step s (items ++ more) = (feed step s' more).map fun (s, rest) => (s, out ++ rest) := by
  induction items generalizing s out with
  | nil =>
    obtain ⟨rfl, rfl⟩ := Prod.mk.inj (Except.ok.inj h)
    rw [List.nil_append]
    cases feed step s more <;> rfl
  | cons item items ih =>
    obtain ⟨s₁, first, rest, hfirst, hrest, rfl⟩ := feed_cons_inv h
    rw [List.cons_append, feed_cons_ok hfirst, ih hrest]
    cases feed step s' more with
    | error e => rfl
    | ok outcome =>
      obtain ⟨s₃, last⟩ := outcome
      show Except.ok (s₃, first ++ (rest ++ last)) = Except.ok (s₃, first ++ rest ++ last)
      rw [List.append_assoc]

/-- What a successful feed has done with a first part of its items. -/
theorem feed_append_inv {step : σ → ι → Except ε (σ × List β)} {s s' : σ} {items more : List ι}
    {out : List β} (h : feed step s (items ++ more) = .ok (s', out)) :
    ∃ s₁ first rest, feed step s items = .ok (s₁, first) ∧ feed step s₁ more = .ok (s', rest) ∧
      out = first ++ rest := by
  induction items generalizing s out with
  | nil => exact ⟨s, [], out, rfl, h, rfl⟩
  | cons item items ih =>
    obtain ⟨s₁, first, rest, hfirst, hrest, rfl⟩ := feed_cons_inv h
    obtain ⟨s₂, middle, last, hmiddle, hlast, rfl⟩ := ih hrest
    refine ⟨s₂, first ++ middle, last, ?_, hlast, (List.append_assoc ..).symm⟩
    rw [feed_cons_ok hfirst, hmiddle]
    rfl

/-- Steps with the same number of outputs. -/
theorem feed_length {step : σ → ι → Except ε (σ × List β)} {count : ℕ}
    (hstep : ∀ s item s' out, step s item = .ok (s', out) → out.length = count) {s s' : σ}
    {items : List ι} {out : List β} (h : feed step s items = .ok (s', out)) :
    out.length = count * items.length := by
  induction items generalizing s out with
  | nil =>
    obtain ⟨rfl, rfl⟩ := Prod.mk.inj (Except.ok.inj h)
    rfl
  | cons item items ih =>
    obtain ⟨s₁, first, rest, hfirst, hrest, rfl⟩ := feed_cons_inv h
    rw [List.length_append, hstep _ _ _ _ hfirst, ih hrest, List.length_cons]
    ring

theorem feed_map {κ : Type} (step : σ → ι → Except ε (σ × List β)) (item : κ → ι) (keys : List κ)
    (s : σ) : feed step s (keys.map item) = feed (fun s key => step s (item key)) s keys := by
  induction keys generalizing s with
  | nil => rfl
  | cons key keys ih =>
    rw [List.map_cons, feed, feed]
    cases step s (item key) with
    | error e => rfl
    | ok outcome =>
      dsimp only
      rw [ih]

/-- A loop that keeps a state and the outputs so far, in whatever form, feeds the items. -/
theorem foldlM_feed {ρ : Type} {body : ρ → ι → Except ε ρ} (step : σ → ι → Except ε (σ × List β))
    (form : σ → List β → ρ)
    (hbody : ∀ s out item, body (form s out) item =
      (step s item).map fun (s, more) => form s (out ++ more))
    (items : List ι) (s : σ) (out : List β) :
    items.foldlM body (form s out) =
      (feed step s items).map fun (s, more) => form s (out ++ more) := by
  induction items generalizing s out with
  | nil =>
    show Except.ok (form s out) = Except.ok (form s (out ++ []))
    rw [List.append_nil]
  | cons item items ih =>
    rw [List.foldlM_cons, hbody, feed]
    cases step s item with
    | error e => rfl
    | ok outcome =>
      obtain ⟨s₁, first⟩ := outcome
      refine (ih s₁ (out ++ first)).trans ?_
      dsimp only
      cases feed step s₁ items with
      | error e => rfl
      | ok outcome =>
        obtain ⟨s₂, rest⟩ := outcome
        show Except.ok (form s₂ (out ++ first ++ rest)) = Except.ok (form s₂ (out ++ (first ++ rest)))
        rw [List.append_assoc]

/-! ## Streaming functions -/

/-- On a valid state, `n` elements in give `m` elements out, into whatever pieces of whole groups of
`n` the input is cut. -/
structure Streams (valid : σ → Prop) (n m : ℕ) (f : σ → List α → Except ε (σ × List β)) :
    Prop where
  nil : ∀ s, valid s → f s [] = .ok (s, [])
  total : ∀ s xs, valid s → n ∣ xs.length →
    ∃ s' ys, f s xs = .ok (s', ys) ∧ valid s' ∧ n * ys.length = m * xs.length
  append : ∀ s xs s' ys, valid s → n ∣ xs.length → f s xs = .ok (s', ys) → ∀ more,
    f s (xs ++ more) = (f s' more).map fun (s, rest) => (s, ys ++ rest)

variable {valid : σ → Prop} {valid' : τ → Prop} {n m k : ℕ}

/-- What a state leads to is valid, and the output has its length. -/
theorem Streams.valid_of_ok {f : σ → List α → Except ε (σ × List β)} (hf : Streams valid n m f)
    {s s' : σ} {xs : List α} {ys : List β} (hs : valid s) (hxs : n ∣ xs.length)
    (h : f s xs = .ok (s', ys)) : valid s' ∧ n * ys.length = m * xs.length := by
  obtain ⟨s₁, ys₁, hok, hvalid, hlength⟩ := hf.total s xs hs hxs
  obtain ⟨rfl, rfl⟩ := Prod.mk.inj (Except.ok.inj (h.symm.trans hok))
  exact ⟨hvalid, hlength⟩

/-- **Cutting the input**: what two pieces give one after the other is what they give at once. -/
theorem Streams.cut {f : σ → List α → Except ε (σ × List β)} (hf : Streams valid n m f)
    {s s₁ s₂ : σ} {xs more : List α} {ys rest : List β} (hs : valid s) (hxs : n ∣ xs.length)
    (h : f s xs = .ok (s₁, ys)) (hmore : f s₁ more = .ok (s₂, rest)) :
    f s (xs ++ more) = .ok (s₂, ys ++ rest) := by
  rw [hf.append s xs s₁ ys hs hxs h more, hmore]
  rfl

/-- The output of a piece of the input comes first. -/
theorem Streams.isPrefix {f : σ → List α → Except ε (σ × List β)} (hf : Streams valid n m f)
    {s s₁ s₂ : σ} {xs more : List α} {ys all : List β} (hs : valid s) (hxs : n ∣ xs.length)
    (h : f s xs = .ok (s₁, ys)) (hall : f s (xs ++ more) = .ok (s₂, all)) : ys <+: all := by
  rw [hf.append s xs s₁ ys hs hxs h more] at hall
  cases hmore : f s₁ more with
  | error e =>
    rw [hmore] at hall
    exact nomatch hall
  | ok outcome =>
    rw [hmore] at hall
    exact ⟨outcome.2, congrArg Prod.snd (Except.ok.inj hall)⟩

/-- Larger groups. -/
theorem Streams.scale {f : σ → List α → Except ε (σ × List β)} (hf : Streams valid n m f)
    (c : ℕ) : Streams valid (n * c) (m * c) f where
  nil := hf.nil
  total s xs hs hxs := by
    obtain ⟨s', ys, hok, hvalid, hlength⟩ := hf.total s xs hs (dvd_of_mul_right_dvd hxs)
    refine ⟨s', ys, hok, hvalid, ?_⟩
    calc n * c * ys.length = n * ys.length * c := by ring
      _ = m * xs.length * c := by rw [hlength]
      _ = m * c * xs.length := by ring
  append s xs s' ys hs hxs h more := hf.append s xs s' ys hs (dvd_of_mul_right_dvd hxs) h more

/-- Another representation of the state. -/
theorem Streams.encode {f : σ → List α → Except ε (σ × List β)}
    {g : τ → List α → Except ε (τ × List β)} (hf : Streams valid n m f) (enc : σ → τ)
    (hdecode : ∀ t, valid' t → ∃ s, valid s ∧ t = enc s) (hencode : ∀ s, valid s → valid' (enc s))
    (hg : ∀ s xs, g (enc s) xs = (f s xs).map fun (s, ys) => (enc s, ys)) :
    Streams valid' n m g where
  nil t ht := by
    obtain ⟨s, hs, rfl⟩ := hdecode t ht
    rw [hg, hf.nil s hs]
    rfl
  total t xs ht hxs := by
    obtain ⟨s, hs, rfl⟩ := hdecode t ht
    obtain ⟨s', ys, hok, hvalid, hlength⟩ := hf.total s xs hs hxs
    refine ⟨enc s', ys, ?_, hencode s' hvalid, hlength⟩
    rw [hg, hok]
    rfl
  append t xs t' ys ht hxs h more := by
    obtain ⟨s, hs, rfl⟩ := hdecode t ht
    obtain ⟨s', ys', hok, _, _⟩ := hf.total s xs hs hxs
    rw [hg, hok] at h
    obtain ⟨rfl, rfl⟩ := Prod.mk.inj (Except.ok.inj h)
    rw [hg, hg, hf.append s xs s' ys' hs hxs hok more]
    cases f s' more <;> rfl

/-! ## Steps stream -/

/-- How a list is split into items that stand for `n` elements each. -/
structure Splits (n : ℕ) (whole : ι → Prop) (split : List α → List ι) : Prop where
  nil : split [] = []
  append : ∀ xs, n ∣ xs.length → ∀ more, split (xs ++ more) = split xs ++ split more
  whole : ∀ xs, ∀ item ∈ split xs, whole item
  count : ∀ xs, n ∣ xs.length → n * (split xs).length = xs.length

theorem feed_total {step : σ → ι → Except ε (σ × List β)} {whole : ι → Prop}
    (hstep : ∀ s item, valid s → whole item →
      ∃ s' ys, step s item = .ok (s', ys) ∧ valid s' ∧ ys.length = m)
    (items : List ι) {s : σ} (hs : valid s) (hitems : ∀ item ∈ items, whole item) :
    ∃ s' ys, feed step s items = .ok (s', ys) ∧ valid s' ∧ ys.length = m * items.length := by
  induction items generalizing s with
  | nil => exact ⟨s, [], rfl, hs, rfl⟩
  | cons item items ih =>
    obtain ⟨s₁, first, hfirst, hs₁, hlength⟩ := hstep s item hs (hitems item List.mem_cons_self)
    obtain ⟨s₂, rest, hrest, hs₂, hlength'⟩ :=
      ih hs₁ fun other hother => hitems other (List.mem_cons_of_mem item hother)
    refine ⟨s₂, first ++ rest, ?_, hs₂, ?_⟩
    · rw [feed_cons_ok hfirst, hrest]
      rfl
    · rw [List.length_append, hlength, hlength', List.length_cons]
      ring

/-- **Steps stream**: each takes an item of `n` elements to `m` elements. -/
theorem streams_feed {step : σ → ι → Except ε (σ × List β)} {whole : ι → Prop}
    {split : List α → List ι} (hsplit : Splits n whole split)
    (hstep : ∀ s item, valid s → whole item →
      ∃ s' ys, step s item = .ok (s', ys) ∧ valid s' ∧ ys.length = m) :
    Streams valid n m fun s xs => feed step s (split xs) where
  nil s _ := by rw [hsplit.nil, feed_nil]
  total s xs hs hxs := by
    obtain ⟨s', ys, hok, hvalid, hlength⟩ := feed_total hstep (split xs) hs (hsplit.whole xs)
    refine ⟨s', ys, hok, hvalid, ?_⟩
    calc n * ys.length = m * (n * (split xs).length) := by rw [hlength]; ring
      _ = m * xs.length := by rw [hsplit.count xs hxs]
  append s xs s' ys _ hxs h more := by
    rw [hsplit.append xs hxs more]
    exact feed_append h (split more)

/-! ## One after the other -/

/-- One function after the other, each with its own state. -/
def andThen (f : σ → List α → Except ε (σ × List β)) (g : τ → List β → Except ε (τ × List γ))
    (s : σ × τ) (xs : List α) : Except ε ((σ × τ) × List γ) :=
  match f s.1 xs with
  | .error e => .error e
  | .ok (s₁, ys) => (g s.2 ys).map fun (t₁, zs) => ((s₁, t₁), zs)

theorem andThen_ok {f : σ → List α → Except ε (σ × List β)}
    {g : τ → List β → Except ε (τ × List γ)} {s s₁ : σ} {t t₁ : τ} {xs : List α} {ys : List β}
    {zs : List γ} (hf : f s xs = .ok (s₁, ys)) (hg : g t ys = .ok (t₁, zs)) :
    andThen f g (s, t) xs = .ok ((s₁, t₁), zs) := by
  unfold andThen
  rw [hf]
  dsimp only
  rw [hg]
  rfl

/-- The output of whole groups is whole groups. -/
theorem piece_dvd {xs : List α} {ys : List β} (hn : 0 < n) (hxs : n ∣ xs.length)
    (h : n * ys.length = m * xs.length) : m ∣ ys.length := by
  obtain ⟨groups, hgroups⟩ := hxs
  refine ⟨groups, Nat.eq_of_mul_eq_mul_left hn ?_⟩
  rw [h, hgroups]
  ring

/-- Whole groups of the output are regrouped. -/
theorem Streams.regroup {f : σ → List α → Except ε (σ × List β)} (hf : Streams valid n m f)
    (hn : 0 < n) (hm : 0 < m) {g : List β → List γ} (hnil : g [] = [])
    (hlength : ∀ ys, m ∣ ys.length → m * (g ys).length = k * ys.length)
    (happend : ∀ ys, m ∣ ys.length → ∀ more, g (ys ++ more) = g ys ++ g more) :
    Streams valid n k fun s xs => (f s xs).map fun (s, ys) => (s, g ys) where
  nil s hs := by
    rw [hf.nil s hs]
    exact congrArg (fun zs => Except.ok (s, zs)) hnil
  total s xs hs hxs := by
    obtain ⟨s', ys, hok, hvalid, hys⟩ := hf.total s xs hs hxs
    refine ⟨s', g ys, by rw [hok]; rfl, hvalid, Nat.eq_of_mul_eq_mul_left hm ?_⟩
    have hgroups := hlength ys (piece_dvd hn hxs hys)
    calc m * (n * (g ys).length) = n * (m * (g ys).length) := by ring
      _ = k * (n * ys.length) := by rw [hgroups]; ring
      _ = m * (k * xs.length) := by rw [hys]; ring
  append s xs s' zs hs hxs h more := by
    obtain ⟨s₁, ys, hok, _, hys⟩ := hf.total s xs hs hxs
    rw [hok] at h
    obtain ⟨rfl, rfl⟩ := Prod.mk.inj (Except.ok.inj h)
    rw [hf.append s xs s₁ ys hs hxs hok more]
    cases f s₁ more with
    | error e => rfl
    | ok outcome =>
      exact congrArg (fun zs => Except.ok (outcome.1, zs)) (happend ys (piece_dvd hn hxs hys) _)

/-- **Streaming functions compose.** -/
theorem Streams.andThen {f : σ → List α → Except ε (σ × List β)}
    {g : τ → List β → Except ε (τ × List γ)} (hf : Streams valid n m f)
    (hg : Streams valid' m k g) (hn : 0 < n) (hm : 0 < m) :
    Streams (fun s => valid s.1 ∧ valid' s.2) n k (andThen f g) where
  nil s hs := andThen_ok (hf.nil s.1 hs.1) (hg.nil s.2 hs.2)
  total s xs hs hxs := by
    obtain ⟨s₁, ys, hok, hvalid, hlength⟩ := hf.total s.1 xs hs.1 hxs
    have hys := piece_dvd hn hxs hlength
    obtain ⟨t₁, zs, hok', hvalid', hlength'⟩ := hg.total s.2 ys hs.2 hys
    refine ⟨(s₁, t₁), zs, andThen_ok hok hok', ⟨hvalid, hvalid'⟩, ?_⟩
    refine Nat.eq_of_mul_eq_mul_left hm ?_
    calc m * (n * zs.length) = n * (m * zs.length) := by ring
      _ = k * (n * ys.length) := by rw [hlength']; ring
      _ = m * (k * xs.length) := by rw [hlength]; ring
  append s xs s' zs hs hxs h more := by
    obtain ⟨s₁, ys, hok, hvalid, hlength⟩ := hf.total s.1 xs hs.1 hxs
    have hys := piece_dvd hn hxs hlength
    obtain ⟨t₁, zs₁, hok', _, _⟩ := hg.total s.2 ys hs.2 hys
    rw [andThen_ok hok hok'] at h
    obtain ⟨rfl, rfl⟩ := Prod.mk.inj (Except.ok.inj h)
    unfold HydraSdr.Computation.andThen
    rw [hf.append s.1 xs s₁ ys hs.1 hxs hok more]
    cases hmore : f s₁ more with
    | error e => rfl
    | ok outcome =>
      obtain ⟨s₂, rest⟩ := outcome
      dsimp only [Except.map]
      rw [hg.append s.2 ys t₁ zs₁ hs.2 hys hok' rest]
      cases g t₁ rest <;> rfl

end HydraSdr.Computation
