import LiqRanger.Bootstrap.Adapter
import LiqRanger.Updater.Step

/-!
# One text for one position

A position gets its text from the bootstrap that finds it, from the updater that follows it and from
the readers that evaluate it, and whoever takes the text parses it. The texts agree, and they say
which position is meant (`identity_survives_text`).
-/

namespace LiqRanger

variable (T : EthersText)

/-- The text of the bootstrap is that of the updater's identity. -/
lemma aaveBootstrap_text (log : PositionLog Address) :
    (aaveBootstrap T).identityText log.borrower log.market =
      ((aaveUpdater T).kind.identity log.borrower log.market).toStringId T := by
  exact aaveKind_text_debug log.borrower log.market

/-- Every identity reads back from its text, so different ones have different texts. The text of an
identity that was read from any accepted text has the same prefix and as many parts. And the texts
that the Aave bootstrap collects from its logs are those of the identities that the updater builds
for the same logs. -/
theorem identity_survives_text :
    (∀ identity, TrackerIdentity.fromStr T (identity.toStringId T) = .ok identity) ∧
    Function.Injective (TrackerIdentity.toStringId T) ∧
    (∀ s identity, TrackerIdentity.fromStr T s = .ok identity →
      TrackerIdentity.fromStr T (identity.toStringId T) = .ok identity ∧
      ((identity.toStringId T).splitOn ':').head? = (s.splitOn ':').head? ∧
      ((identity.toStringId T).splitOn ':').length = (s.splitOn ':').length) ∧
    ∀ log : PositionLog Address, (aaveBootstrap T).identityText log.borrower log.market =
      ((aaveUpdater T).kind.identity log.borrower log.market).toStringId T := by
  refine ⟨TrackerIdentity.fromStr_toStringId, TrackerIdentity.toStringId_injective, ?_,
    aaveBootstrap_text T⟩
  intro s identity hs
  have hread := TrackerIdentity.fromStr_toStringId (T := T) identity
  obtain ⟨hhead, hlength⟩ := TrackerIdentity.parts_of_fromStr hs
  obtain ⟨hhead', hlength'⟩ := TrackerIdentity.parts_of_fromStr hread
  exact ⟨hread, hhead'.trans hhead.symm, hlength'.trans hlength.symm⟩

/-- A position of the pool, and a text with an upper-case digit and without a marker. -/
theorem identity_survives_text_sample :
    TrackerIdentity.fromStr .reference
        ((TrackerIdentity.aaveV3 (.ofNat 20 10) (.ofNat 20 7)).toStringId .reference)
      = .ok (.aaveV3 (.ofNat 20 10) (.ofNat 20 7)) ∧
    (TrackerIdentity.aaveV3 (.ofNat 20 10) (.ofNat 20 7)).toStringId .reference ≠
      (TrackerIdentity.aaveV3 (.ofNat 20 7) (.ofNat 20 10)).toStringId .reference ∧
    TrackerIdentity.fromStr .reference
        ((TrackerIdentity.compound3 (.ofNat 20 10)).toStringId .reference)
      = .ok (.compound3 (.ofNat 20 10)) ∧
    (aaveBootstrap .reference).identityText (.ofNat 20 10) (.ofNat 20 7) =
      ((aaveUpdater .reference).kind.identity (.ofNat 20 10) (.ofNat 20 7)).toStringId
        .reference := by
  obtain ⟨hread, hinjective, haccepted, hbootstrap⟩ := identity_survives_text .reference
  have htext := haccepted ("comet:".toList ++ List.replicate 39 '0' ++ ['A'])
    (.compound3 (.ofNat 20 10)) rfl
  refine ⟨hread _, fun heq => ?_, htext.1, hbootstrap ⟨.borrow, .ofNat 20 7, .ofNat 20 10⟩⟩
  exact absurd (hinjective heq) (by decide)

end LiqRanger
