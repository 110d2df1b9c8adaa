import FleetWarden.Proofs.Config.Environments
import FleetWarden.Proofs.Manager.Lifecycle
import FleetWarden.Proofs.Numeral.Rounding
import FleetWarden.Proofs.Startup.Opening

/-!
# Which refresh intervals get through

A check and a loop both refuse the intervals that are zero or less. The numbers that are left are
the positive ones and NaN, which is not less than anything (`atMostZero_eq_false_iff`), so an
interval that gets through is positive unless it was given as NaN. A loop begins one wait of its
interval after each round.
-/

namespace FleetWarden

namespace Numeral

namespace Binary64

theorem units_pos_iff {code : Nat} : 0 < units code ↔ 0 < code := by
  constructor
  · intro h
    apply Nat.pos_of_ne_zero
    rintro rfl
    exact absurd h (Nat.lt_irrefl 0)
  · intro h
    have hcode : binadeSize * (code / binadeSize) + code % binadeSize = code :=
      Nat.div_add_mod code binadeSize
    by_cases hbinade : code / binadeSize = 0
    · rw [hbinade] at hcode
      simp only [units, hbinade, if_true]
      omega
    · simp only [units, hbinade, if_false]
      exact Nat.mul_pos (Nat.add_pos_left (by decide) _) (twoTo_pos _)

theorem zero_lt_finite_iff {negative : Bool} {code : Fin magnitudes} :
    zero.lt (.finite negative code) = true ↔ negative = false ∧ 0 < code.val := by
  change decide ((0 : Int) < signedUnits negative code) = true ↔ _
  rw [decide_eq_true_iff, ← units_pos_iff]
  cases negative with
  | false => simp [signedUnits]
  | true => simp [signedUnits]

theorem atMostZero_eq_false_iff {x : Binary64} :
    x.atMostZero = false ↔ zero.lt x = true ∨ x = .nan := by
  cases x with
  | nan => simp [atMostZero]
  | infinite negative => cases negative <;> simp [atMostZero, zero, signedZero, lt]
  | finite negative code =>
      rw [zero_lt_finite_iff]
      simp [atMostZero, Nat.pos_iff_ne_zero]

theorem ofCode_ne_nan (negative : Bool) (code : Nat) : ofCode negative code ≠ .nan := by
  rw [ofCode]
  split
  · simp
  · simp

theorem ofRatio_ne_nan (negative : Bool) (num den : Nat) : ofRatio negative num den ≠ .nan :=
  ofCode_ne_nan _ _

theorem ofNat_ne_nan (n : Nat) : ofNat n ≠ .nan := ofRatio_ne_nan _ _ _

theorem bounded?_ne_nan {x : Binary64} (h : x ≠ .nan) : x.bounded? ≠ some .nan := by
  cases x with
  | nan => exact absurd rfl h
  | infinite negative => exact nofun
  | finite negative code => exact nofun

theorem ofInt?_ne_nan (n : Int) : ofInt? n ≠ some .nan := bounded?_ne_nan (ofRatio_ne_nan _ _ _)

end Binary64

namespace Quantity

/-- Whether the quantity is greater than zero. -/
def isPositive : Quantity → Bool
  | int n => 0 < n
  | float x => Binary64.zero.lt x
  | truth b => b

theorem atMostZero_eq_false_iff {q : Quantity} :
    q.atMostZero = false ↔ q.isPositive = true ∨ q = .float .nan := by
  cases q with
  | int n => simp [atMostZero, isPositive]
  | float x => simp [atMostZero, isPositive, Binary64.atMostZero_eq_false_iff]
  | truth b => simp [atMostZero, isPositive]

end Quantity
end Numeral

open Numeral

theorem RefreshLoop.exists_make_iff {q : Quantity} :
    (∃ l, RefreshLoop.make q = .ok l) ↔ q.isPositive = true ∨ q = .float .nan := by
  rw [← Quantity.atMostZero_eq_false_iff]
  constructor
  · rintro ⟨l, hl⟩
    exact (RefreshLoop.make_eq_ok_iff.1 hl).1
  · intro h
    exact ⟨_, RefreshLoop.make_eq_ok_iff.2 ⟨h, rfl⟩⟩

/-- The value is NaN, or a text that is read as NaN. -/
inductive Value.ReadsNan : Value → Prop
  | float : ReadsNan (.float .nan)
  | text {s : String} (h : Real.read? s = some .nan) : ReadsNan (.text s)

namespace FleetConfig
variable {limits : Limits} {c : FleetConfig} {keys : KeyTable}
  {source : List (String × Value)}

theorem readsNan_of_seconds {v : Value} : seconds limits v = .ok .nan → v.ReadsNan := by
  fun_cases seconds limits v with
  | case1 flag =>
      intro h
      have hflag := Except.ok.inj h
      split at hflag
      · exact absurd hflag (Binary64.ofNat_ne_nan 1)
      · cases hflag
  | case2 n x hn =>
      intro h
      obtain rfl := Except.ok.inj h
      exact absurd hn (Binary64.ofInt?_ne_nan n)
  | case3 n hn =>
      intro h
      cases h
  | case4 x =>
      intro h
      obtain rfl := Except.ok.inj h
      exact .float
  | case5 s x hs =>
      intro h
      obtain rfl := Except.ok.inj h
      exact .text hs
  | case6 s hs =>
      intro h
      cases h
  | case7 =>
      intro h
      obtain ⟨shown, -, hshown⟩ := except_bind_eq_ok_iff.1 h
      cases hshown

/-- The refresh interval is a positive number, unless the last pair that sets it gives NaN. -/
def PositiveUnlessNan (keys : KeyTable) (source : List (String × Value)) (c : FleetConfig) : Prop :=
  ∃ x, c.refreshInterval = .float x ∧ (Binary64.zero.lt x = true ∨
    x = .nan ∧ ∃ v, given? keys source .refreshInterval = some v ∧ v.ReadsNan)

theorem positiveUnlessNan_of_accepted (h : ofPairs limits keys source = .ok c) (hc : c.Accepted) :
    PositiveUnlessNan keys source c := by
  obtain ⟨x, hx⟩ := exists_float_of_ofPairs h
  have hinterval := hc.interval
  rw [hx] at hinterval
  have hfalse : x.atMostZero = false := Except.ok.inj hinterval
  refine ⟨x, hx, ?_⟩
  obtain hpositive | rfl := Binary64.atMostZero_eq_false_iff.1 hfalse
  · exact .inl hpositive
  · refine .inr ⟨rfl, ?_⟩
    have hgiven := ofPairs_eq_ok_iff.1 h .refreshInterval
    change _ = Except.ok c.refreshInterval at hgiven
    rw [hx] at hgiven
    cases hv : given? keys source .refreshInterval with
    | none =>
        rw [hv] at hgiven
        have hdefault := Value.float.inj (Except.ok.inj hgiven)
        exact absurd hdefault (Binary64.ofNat_ne_nan 3600)
    | some v =>
        rw [hv, settled, except_map_eq_ok_iff] at hgiven
        obtain ⟨y, hy, heq⟩ := hgiven
        obtain rfl := Value.float.inj heq
        exact ⟨v, rfl, readsNan_of_seconds hy⟩

end FleetConfig

namespace Storage
open FleetConfig
variable {c : FleetConfig} {st : Storage}

theorem positiveUnlessNan_of_load {s : String} (h : (load s st).1 = .ok c) :
    ∃ content table, Holds st.disk s content ∧ parse st.disk.host.limits content = .ok table ∧
      PositiveUnlessNan fileKeys (documentPairs table) c := by
  obtain ⟨content, hholds, hcontent⟩ := holds_of_load h
  obtain ⟨table, hparse, hpairs, haccepted, -⟩ := ofContent_eq_ok_iff.1 hcontent
  exact ⟨content, table, hholds, hparse, positiveUnlessNan_of_accepted hpairs haccepted⟩

theorem positiveUnlessNan_of_loadEnvironment {environment : List (String × String)}
    (h : (loadEnvironment environment st).1 = .ok c) :
    PositiveUnlessNan environmentKeys (environmentPairs environment) c := by
  rw [fst_loadEnvironment] at h
  obtain ⟨c', hc', hcheck⟩ := except_bind_eq_ok_iff.1 h
  obtain ⟨hchecked, heq⟩ := except_then_eq_ok_iff.1 hcheck
  obtain rfl : c' = c := Except.ok.inj heq
  exact positiveUnlessNan_of_accepted hc' (check_eq_ok_iff.1 hchecked)

end Storage

namespace Startup

theorem eq_ok_of_configured {α : Type} {x : Except ConfigFault α} {t t' : StartupTrace} {a : α}
    (h : configured x t = (.ok a, t')) : x = .ok a := by
  cases x with
  | error f => cases h
  | ok b =>
      cases h
      rfl

theorem make_of_makeLoop {c : FleetConfig} {t t' : StartupTrace} {loop : RefreshLoop}
    (h : makeLoop c t = (.ok loop, t')) :
    ∃ q, quantity c.refreshInterval = .ok q ∧ RefreshLoop.make q = .ok loop := by
  obtain ⟨q, t₁, hq, hmake⟩ := Action.bind_eq_ok_iff.1 h
  refine ⟨q, eq_ok_of_configured hq, ?_⟩
  cases hl : RefreshLoop.make q with
  | error e =>
      rw [hl] at hmake
      cases hmake
  | ok l =>
      rw [hl] at hmake
      cases hmake
      rfl

/-- The loop of an opened manager has the configured interval. -/
theorem make_of_openManager {limits : Limits} {provider : CloudProvider} {c : FleetConfig}
    {t : StartupTrace} {o : Opening} (h : (openManager limits provider c t).1 = .ok o) :
    ∃ q, quantity c.refreshInterval = .ok q ∧ RefreshLoop.make q = .ok o.loop := by
  have hrun : openManager limits provider c t = (.ok o, (openManager limits provider c t).2) :=
    Prod.ext h rfl
  obtain ⟨_, _, -, hrun⟩ := Action.bind_eq_ok_iff.1 hrun
  obtain ⟨_, _, -, hrun⟩ := Action.bind_eq_ok_iff.1 hrun
  obtain ⟨_, _, -, hrun⟩ := Action.bind_eq_ok_iff.1 hrun
  obtain ⟨_, _, -, hrun⟩ := Action.bind_eq_ok_iff.1 hrun
  obtain ⟨loop, _, hloop, hrun⟩ := Action.bind_eq_ok_iff.1 hrun
  obtain ⟨_, _, -, hrun⟩ := Action.bind_eq_ok_iff.1 hrun
  cases hrun
  exact make_of_makeLoop hloop

end Startup

namespace FleetConfig
open Startup Storage

/-- Intervals that get through are positive or NaN. This holds of a loop, of a checked
configuration, whatever source its settings come from, and of an opened manager, whose loop begins
one wait of the configured interval after each of its rounds, whatever is done to it. A
configuration from a source has NaN for its interval only if the source gives NaN for it. -/
theorem positive_unless_nan (q : Quantity) (c : FleetConfig) :
    ((∃ l, RefreshLoop.make q = .ok l) ↔ q.isPositive = true ∨ q = .float .nan) ∧
    (c.check = .ok () → ∃ interval, quantity c.refreshInterval = .ok interval ∧
      (interval.isPositive = true ∨ interval = .float .nan)) ∧
    (∀ limits keys source, ofPairs limits keys source = .ok c → c.check = .ok () →
      PositiveUnlessNan keys source c) ∧
    (∀ s st, (load s st).1 = .ok c →
      ∃ content table, Holds st.disk s content ∧ parse st.disk.host.limits content = .ok table ∧
        PositiveUnlessNan fileKeys (documentPairs table) c) ∧
    (∀ environment st, (loadEnvironment environment st).1 = .ok c →
      PositiveUnlessNan environmentKeys (environmentPairs environment) c) ∧
    ∀ limits provider t o, (openManager limits provider c t).1 = .ok o →
      ∃ interval, quantity c.refreshInterval = .ok interval ∧
        (interval.isPositive = true ∨ interval = .float .nan) ∧
        ∀ {ρ : Type} (client : Client ρ) world deeds,
          let s := Deed.run client deeds (o.system world)
          s.loop.interval = interval ∧ s.loop.waits = List.replicate s.loop.ticks interval := by
  refine ⟨RefreshLoop.exists_make_iff, ?_, ?_, ?_, ?_, ?_⟩
  · intro hc
    obtain ⟨interval, hinterval, hlow⟩ := atMostZero_eq_ok_iff.1 (check_eq_ok_iff.1 hc).interval
    exact ⟨interval, hinterval, Quantity.atMostZero_eq_false_iff.1 hlow⟩
  · intro limits keys source h hc
    exact positiveUnlessNan_of_accepted h (check_eq_ok_iff.1 hc)
  · intro s st h
    exact positiveUnlessNan_of_load h
  · intro environment st h
    exact positiveUnlessNan_of_loadEnvironment h
  · intro limits provider t o h
    obtain ⟨interval, hinterval, hmake⟩ := make_of_openManager h
    refine ⟨interval, hinterval, RefreshLoop.exists_make_iff.1 ⟨_, hmake⟩, ?_⟩
    intro ρ client world deeds s
    have hloop : (o.system world).loop = o.loop := (Opening.foldl_register o.fleets _).2
    have hshows := Deed.shows_run client (hloop ▸ hmake) deeds
    refine ⟨hshows.interval_eq, ?_⟩
    rw [hshows.ticks_eq]
    exact hshows.waits_eq

theorem positive_unless_nan_governmentConfig :
    ∃ o, (openManager .standard (.standard none) governmentConfig emptyTrace).1 = .ok o ∧
      ∀ (client : Client Unit) world deeds,
        let s := Deed.run client deeds (o.system world)
        s.loop.waits = List.replicate s.loop.ticks (.int 60) := by
  obtain ⟨o, ho⟩ := exists_opening_governmentConfig
  obtain ⟨-, -, -, -, -, hopened⟩ := positive_unless_nan (.int 60) governmentConfig
  obtain ⟨q, hq, -, hruns⟩ := hopened _ _ _ o ho
  obtain rfl : .int 60 = q := Except.ok.inj hq
  exact ⟨o, ho, fun client world deeds => (hruns client world deeds).2⟩

/-- An environment that gives NaN for the refresh interval. -/
def nanEnvironment : List (String × String) :=
  [("ARM_SUBSCRIPTION_ID", "sub"), ("ARM_RESOURCE_GROUP", "rg"),
    ("AZFLEET_REFRESH_INTERVAL", "nan")]

/-- NaN gets through the check and is taken for the interval of a loop, but it is not positive. -/
theorem nan_gets_through :
    ∃ c l, (loadEnvironment nanEnvironment (soleFile .empty)).1 = .ok c ∧ c.check = .ok () ∧
      c.refreshInterval = .float .nan ∧ RefreshLoop.make (.float .nan) = .ok l ∧
      (Quantity.float .nan).isPositive = false := by
  refine ⟨{ default with
    subscriptionId := .text "sub", resourceGroup := .text "rg"
    refreshInterval := .float .nan }, _, ?_, ?_, rfl, rfl, rfl⟩
  · rfl
  · decide +kernel

end FleetConfig

end FleetWarden
