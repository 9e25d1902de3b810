import LiqRanger.Bootstrap.World

/-!
# Progress of a bootstrap

When the texts an adapter writes stand for the positions they name, the saved block is never
ahead of the rows (`progress_of_lifetimes`), through failures and restarts.
-/

namespace LiqRanger

open Effect

variable {κ : Type} [DecidableEq κ] {K : ListKind κ} {T : EthersText} {chain : Chain κ}
  {config : BootstrapConfig κ} {w w' : BootstrapWorld κ}

/-- Every whitelisted log from `fromBlock` to `toBlock` has its position in the rows. -/
def Covered (config : BootstrapConfig κ) (chain : Chain κ) (rows : MultiMap Address κ)
    (fromBlock toBlock : ℕ) : Prop :=
  ∀ block, fromBlock ≤ block → block ≤ toBlock → ∀ log ∈ chain block,
    log.market ∈ config.whitelist → rows.contains log.borrower log.market = true

/-- Up to the saved block, the rows hold every position of the scanned part of the chain. -/
def Progress (config : BootstrapConfig κ) (chain : Chain κ) (w : BootstrapWorld κ) : Prop :=
  ∀ last, w.saved = some last → Covered config chain w.list.rows (config.deployBlock - 20) last

/-- `w'` has the rows of `w` and maybe more, and the same saved block. -/
def Extends (w w' : BootstrapWorld κ) : Prop :=
  w'.saved = w.saved ∧ ∀ borrower x, w.list.rows.contains borrower x = true →
    w'.list.rows.contains borrower x = true

lemma Extends.refl (w : BootstrapWorld κ) : Extends w w := ⟨rfl, fun _ _ h => h⟩

lemma Extends.trans {w₁ w₂ w₃ : BootstrapWorld κ} (h₁ : Extends w₁ w₂) (h₂ : Extends w₂ w₃) :
    Extends w₁ w₃ :=
  ⟨h₂.1.trans h₁.1, fun b x hmem => h₂.2 b x (h₁.2 b x hmem)⟩

lemma Progress.extends (h : Progress config chain w) (hext : Extends w w') :
    Progress config chain w' := by
  intro last hlast block hfrom hto log hlog hlist
  rw [hext.1] at hlast
  exact hext.2 _ _ (h last hlast block hfrom hto log hlog hlist)

/-! ### One entry -/

lemma extends_add {sled : Except String Unit} {identity : Text} (hsync : w.list.Synced) :
    Extends w { w with list := (w.list.add K T sled identity).2 } :=
  ⟨rfl, fun _ _ hmem => WatchList.rows_add hsync hmem⟩

/-- After an entry was tracked without an error, its position is in the rows. -/
lemma trackEntry_holds {Inv : BootstrapWorld κ → Prop} {entry : Text}
    (hkeep : ∀ ⦃w w'⦄, Inv w → Extends w w' → Inv w') (hsync : w.list.Synced) (hinv : Inv w) :
    (Bootstrap.trackEntry entry).Holds (bootstrapWorld K T chain) Inv
      (fun o w' => o = .ok ⟨⟩ → w'.list.Synced ∧ Extends w w' ∧ ∀ borrower x,
        K.parse T entry = some (borrower, x) →
          w'.list.rows.contains borrower x = true) w := by
  rintro tracked w' ⟨rfl, rfl⟩
  refine ⟨hinv, ?_⟩
  cases htracked : w'.list.containsIdentity K T entry with
  | true =>
    refine fun _ => ⟨hsync, Extends.refl w', fun borrower x hparse => ?_⟩
    rw [← show w'.list.cache = w'.list.rows from hsync]
    rwa [WatchList.containsIdentity_of_parse hparse] at htracked
  | false =>
    rintro reply w₂ ⟨sled, hadd⟩
    obtain ⟨rfl, rfl⟩ := Prod.mk.inj hadd
    have hext : Extends w' { w' with list := (w'.list.add K T sled entry).2 } :=
      extends_add hsync
    refine ⟨hkeep hinv hext, ?_⟩
    cases hreply : (w'.list.add K T sled entry).1 with
    | error e => exact fun h => nomatch h
    | ok =>
      exact fun _ => ⟨hsync.add hreply, hext, fun borrower x hparse =>
        WatchList.rows_add_self hsync hparse hreply⟩

/-- A batch of entries: all their positions end up in the rows. -/
lemma trackEntries_holds {Inv : BootstrapWorld κ → Prop} (order : List Text)
    (hkeep : ∀ ⦃w w'⦄, Inv w → Extends w w' → Inv w') (hsync : w.list.Synced) (hinv : Inv w) :
    (order.forM Bootstrap.trackEntry).Holds (bootstrapWorld K T chain) Inv
      (fun o w' => o = .ok ⟨⟩ → w'.list.Synced ∧ Extends w w' ∧ ∀ entry ∈ order, ∀ borrower x,
        K.parse T entry = some (borrower, x) → w'.list.rows.contains borrower x = true) w := by
  refine Program.holds_forM
    (fun rest w' => w'.list.Synced ∧ Extends w w' ∧ ∀ entry ∈ order, entry ∉ rest →
      ∀ borrower x, K.parse T entry = some (borrower, x) →
        w'.list.rows.contains borrower x = true)
    ⟨hsync, Extends.refl w, fun entry hmem hnot => absurd hmem hnot⟩ ?_ ?_
  · rintro x rest w₁ ⟨hsync₁, hext₁, hdone⟩
    refine (trackEntry_holds hkeep hsync₁ (hkeep hinv hext₁)).mono fun o w₂ hpost => ?_
    match o with
    | .error e => exact fun h => nomatch h
    | .ok _ =>
      obtain ⟨hsync₂, hext₂, htracked⟩ := hpost rfl
      refine ⟨hsync₂, hext₁.trans hext₂, fun entry hmem hnot borrower y hparse => ?_⟩
      by_cases hx : entry = x
      · exact htracked borrower y (hx ▸ hparse)
      · refine hext₂.2 _ _ (hdone entry hmem ?_ borrower y hparse)
        rw [List.mem_cons, not_or]
        exact ⟨hx, hnot⟩
  · rintro w₁ ⟨hsync₁, hext₁, hdone⟩ -
    exact ⟨hsync₁, hext₁, fun entry hmem => hdone entry hmem List.not_mem_nil⟩

/-! ### Runs and lifetimes -/

section
variable (hid : ∀ borrower x, K.parse T (config.identityText borrower x) = some (borrower, x))
include hid

/-- A run keeps the saved block behind the rows, at every call. -/
lemma run_holds (hsync : w.list.Synced) (hprogress : Progress config chain w) :
    (Bootstrap.run config).Holds (bootstrapWorld K T chain) (Progress config chain)
      (fun o w' => o = .ok () → w'.list.Synced) w := by
  refine run_holds_of hprogress fun latest => ?_
  -- below the block to be scanned next, everything is in the rows
  refine scan_holds_of
    (fun start w => w.list.Synced ∧ Progress config chain w ∧ ∀ block, block < start →
      Covered config chain w.list.rows (config.deployBlock - 20) block)
    (fun w => w.list.Synced) (fun _ _ h => h.2.1) ?_ (fun _ _ _ h => h.1)
    ⟨hsync, hprogress, ?_⟩
  · rintro start w order hle ⟨hsync, hprogress, hcovered⟩ hentries
    refine (trackEntries_holds order (fun _ _ => Progress.extends) hsync hprogress).mono
      fun o w₂ hpost hok => ?_
    obtain ⟨hsync₂, hext₂, htracked⟩ := hpost hok
    -- the batch closes the gap between what was covered and its own end
    have hcovered₂ : Covered config chain w₂.list.rows (config.deployBlock - 20)
        (min (start + config.batchSize) latest) := by
      intro block hfrom hto log hlog hlist
      by_cases hblock : block < start
      · exact hext₂.2 _ _ (hcovered block hblock block hfrom le_rfl log hlog hlist)
      · have hentry : config.identityText log.borrower log.market ∈ order :=
          (hentries _).mpr ⟨block, Nat.le_of_not_lt hblock, hto, log, hlog, hlist, rfl⟩
        exact htracked _ hentry _ _ (hid _ _)
    refine ⟨hprogress.extends hext₂, hsync₂, ?_, ?_⟩
    · intro last hlast
      cases hlast
      exact hcovered₂
    · intro block hblock block' hfrom hto
      exact hcovered₂ block' hfrom (hto.trans (Nat.le_of_lt_succ hblock))
  · intro block hblock block' hfrom hto
    -- below the first scanned block there is nothing, or the saved block covers it
    cases hsaved : w.saved with
    | none =>
      rw [hsaved, Option.getD_none] at hblock
      exact absurd (hfrom.trans hto) (Nat.not_le_of_lt hblock)
    | some saved =>
      rw [hsaved, Option.getD_some] at hblock
      exact hprogress saved hsaved block' hfrom (hto.trans (hblock.le.trans (Nat.sub_le _ _)))

/-- Between runs the cache holds the rows, and the saved block is behind them. -/
lemma synced_of_lifetimes (h : Lifetimes K T chain config w) :
    w.list.Synced ∧ Progress config chain w := by
  induction h with
  | start rows => exact ⟨WatchList.synced_new rows, fun last hlast => nomatch hlast⟩
  | ok hw ht hp ih =>
    obtain ⟨hsync, hprogress⟩ := ih
    have hholds := run_holds hid hsync hprogress
    exact ⟨hholds.outcome ht hp rfl, hholds.invariant_end hprogress ht hp⟩
  | restart hw ht hp ih =>
    obtain ⟨hsync, hprogress⟩ := ih
    have hend := (run_holds hid hsync hprogress).invariant_end hprogress ht hp
    exact ⟨WatchList.synced_new _, fun last hlast => hend last hlast⟩

/-- At every moment of every lifetime the saved block is behind the rows. -/
theorem progress_of_lifetimes {t₁ t₂ : List (Event (bootstrapPorts κ))}
    {o : Except String Unit} (h : Lifetimes K T chain config w)
    (ht : (Bootstrap.run config).Trace (t₁ ++ t₂) o)
    (hp : (bootstrapWorld K T chain).Path w t₁ w') : Progress config chain w' := by
  obtain ⟨hsync, hprogress⟩ := synced_of_lifetimes hid h
  exact (run_holds hid hsync hprogress).invariant hprogress ht hp

end

end LiqRanger
