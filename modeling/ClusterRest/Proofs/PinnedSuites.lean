import ClusterRest.Proofs.Outcomes
import ClusterRest.Transport.Tls
import Mathlib.Data.List.Nodup

/-!
TLS policies that list their cipher suites. Main statement: such a policy can be set up just if its
versions are in order, it lists something, each name is one of a suite, and one of the suites is for
a version between the two; else it is refused for the first of these that fails.
-/

namespace ClusterRest.Transport

/-- A name of a suite, with blanks around it or without. -/
def Names (name : String) (suite : CipherSuite) : Prop :=
  suite ∈ knownSuites ∧ suite.name = Text.trim name

variable {tls : TlsConfig} {name : String} {names : List String} {suite other : CipherSuite}
  {suites : List CipherSuite} {fault : TlsFault}

theorem nodup_knownSuites : (knownSuites.map CipherSuite.name).Nodup := by decide

theorem Names.unique (first : Names name suite) (second : Names name other) : suite = other :=
  List.inj_on_of_nodup_map nodup_knownSuites first.1 second.1 (first.2.trans second.2.symm)

theorem suiteNamed?_eq_none : suiteNamed? name = none ↔ ∀ suite, ¬ Names name suite := by
  rw [suiteNamed?, List.find?_eq_none]
  simp only [decide_eq_true_eq, Names, not_and]

theorem names_of_suiteNamed? (found : suiteNamed? name = some suite) : Names name suite :=
  ⟨List.mem_of_find?_eq_some found, by simpa using List.find?_some found⟩

theorem suiteNamed?_eq_some : suiteNamed? name = some suite ↔ Names name suite := by
  refine ⟨names_of_suiteNamed?, fun named => ?_⟩
  cases found : suiteNamed? name with
  | none => exact absurd named (suiteNamed?_eq_none.mp found suite)
  | some other => rw [named.unique (names_of_suiteNamed? found)]

/-- The suite of one name. -/
def suiteOf (name : String) : Except TlsFault CipherSuite :=
  match suiteNamed? name with
  | some suite => .ok suite
  | none => .error (.unknownSuite name)

theorem suiteOf_eq_ok : suiteOf name = .ok suite ↔ Names name suite := by
  rw [← suiteNamed?_eq_some, suiteOf]
  cases suiteNamed? name <;> simp

theorem suiteOf_eq_error :
    suiteOf name = .error fault ↔ (∀ suite, ¬ Names name suite) ∧ fault = .unknownSuite name := by
  rw [← suiteNamed?_eq_none, suiteOf]
  cases suiteNamed? name <;> simp [eq_comm]

theorem suitesNamed_eq (names : List String) : suitesNamed names = names.mapM suiteOf := by
  induction names with
  | nil => rfl
  | cons name names ih =>
      rw [suitesNamed, List.mapM_cons, suiteOf, ih]
      cases suiteNamed? name <;> rfl

theorem suitesNamed_eq_ok : suitesNamed names = .ok suites ↔ List.Forall₂ Names names suites := by
  rw [suitesNamed_eq, mapM_eq_ok]
  simp only [suiteOf_eq_ok]

theorem suitesNamed_eq_error :
    suitesNamed names = .error fault ↔
      ∃ front name rest, names = front ++ name :: rest ∧
        (∀ earlier ∈ front, ∃ suite, Names earlier suite) ∧ (∀ suite, ¬ Names name suite) ∧
          fault = .unknownSuite name := by
  rw [suitesNamed_eq, mapM_eq_error]
  simp only [suiteOf_eq_ok, suiteOf_eq_error]

theorem exists_suitesNamed (known : ∀ name ∈ names, ∃ suite, Names name suite) :
    ∃ suites, suitesNamed names = .ok suites := by
  rw [suitesNamed_eq, exists_mapM_eq_ok]
  simpa only [suiteOf_eq_ok] using known

/-! ### Policies -/

/-- A suite for a version that a policy admits. -/
def Admits (tls : TlsConfig) (suite : CipherSuite) : Prop :=
  tls.minVersion.isAtMost suite.version = true ∧ suite.version.isAtMost tls.maxVersion = true

/-- Lists of suites with which a policy can be set up. -/
structure Accepted (tls : TlsConfig) (names : List String) : Prop where
  ordered : tls.minVersion.isAtMost tls.maxVersion = true
  filled : names ≠ []
  known : ∀ name ∈ names, ∃ suite, Names name suite
  usable : ∃ name ∈ names, ∃ suite, Names name suite ∧ Admits tls suite

/-- Why a policy with a list of suites is refused, by what is looked at first. -/
inductive Refused (tls : TlsConfig) (names : List String) : TlsFault → Prop where
  | versions (inverted : tls.minVersion.isAtMost tls.maxVersion = false) :
      Refused tls names (.versionsInverted tls.minVersion tls.maxVersion)
  | unknown (ordered : tls.minVersion.isAtMost tls.maxVersion = true) {front rest : List String}
      {name : String} (listed : names = front ++ name :: rest)
      (known : ∀ earlier ∈ front, ∃ suite, Names earlier suite)
      (unknown : ∀ suite, ¬ Names name suite) : Refused tls names (.unknownSuite name)
  | nothing (ordered : tls.minVersion.isAtMost tls.maxVersion = true) (empty : names = []) :
      Refused tls names .noSuites
  | outside (ordered : tls.minVersion.isAtMost tls.maxVersion = true) (filled : names ≠ [])
      (known : ∀ name ∈ names, ∃ suite, Names name suite)
      (outside : ∀ name ∈ names, ∀ suite, Names name suite → ¬ Admits tls suite) :
      Refused tls names .suitesOutsideVersions

theorem any_isWithin :
    (suites.any fun suite => isWithin tls suite.version) = true ↔
      ∃ suite ∈ suites, Admits tls suite := by
  simp only [List.any_eq_true, isWithin, Bool.and_eq_true, Admits]

/-- Suites that are named, told by their names. -/
theorem exists_mem_of_named (named : List.Forall₂ Names names suites) :
    (∃ suite ∈ suites, Admits tls suite) ↔
      ∃ name ∈ names, ∃ suite, Names name suite ∧ Admits tls suite := by
  induction named with
  | nil => simp
  | cons first rest ih =>
      simp only [List.exists_mem_cons_iff, ih]
      refine or_congr_left ⟨fun admits => ⟨_, first, admits⟩, ?_⟩
      rintro ⟨other, second, admits⟩
      rwa [first.unique second]

theorem checkSuites_of_named (named : suitesNamed names = .ok suites) :
    checkSuites tls names =
      if suites = [] then .error .noSuites
      else if suites.any fun suite => isWithin tls suite.version then .ok ()
      else .error .suitesOutsideVersions := by
  rw [checkSuites, named]
  simp only [bind, Except.bind, List.isEmpty_iff]
  split <;> rfl

theorem Accepted.checkSuites_eq (accepted : Accepted tls names) :
    checkSuites tls names = .ok () := by
  obtain ⟨suites, named⟩ := exists_suitesNamed accepted.known
  have each := suitesNamed_eq_ok.mp named
  have filled : suites ≠ [] := by
    rintro rfl
    exact accepted.filled (List.forall₂_nil_right_iff.mp each)
  have within := any_isWithin.mpr ((exists_mem_of_named each).mpr accepted.usable)
  rw [checkSuites_of_named named, if_neg filled, if_pos within]

theorem accepted_or_refused (tls : TlsConfig) (names : List String) :
    Accepted tls names ∨ ∃ fault, Refused tls names fault := by
  cases ordered : tls.minVersion.isAtMost tls.maxVersion with
  | false => exact .inr ⟨_, .versions ordered⟩
  | true =>
      cases named : suitesNamed names with
      | error fault =>
          obtain ⟨front, name, rest, listed, known, unknown, -⟩ := suitesNamed_eq_error.mp named
          exact .inr ⟨_, .unknown ordered listed known unknown⟩
      | ok suites =>
          have known : ∀ name ∈ names, ∃ suite, Names name suite := by
            have each := exists_mapM_eq_ok.mp ⟨suites, (suitesNamed_eq names).symm.trans named⟩
            simpa only [suiteOf_eq_ok] using each
          by_cases filled : names = []
          · exact .inr ⟨_, .nothing ordered filled⟩
          · by_cases usable : ∃ name ∈ names, ∃ suite, Names name suite ∧ Admits tls suite
            · exact .inl ⟨ordered, filled, known, usable⟩
            · simp only [not_exists, not_and] at usable
              exact .inr ⟨_, .outside ordered filled known usable⟩

variable {files : Files}

/-- Without an authority of its own, a policy depends on its versions and its suites alone. -/
theorem checkTls_pinned (pinned : tls.cipherSuites = some names)
    (verified : tls.verification = .systemRoots ∨ tls.verification = .none) :
    checkTls files tls =
      if tls.minVersion.isAtMost tls.maxVersion then checkSuites tls names
      else .error (.versionsInverted tls.minVersion tls.maxVersion) := by
  rw [checkTls, pinned]
  cases tls.minVersion.isAtMost tls.maxVersion with
  | false => rfl
  | true => rcases verified with system | disabled <;> simp [*]

theorem Refused.checkTls_eq (refused : Refused tls names fault)
    (pinned : tls.cipherSuites = some names)
    (verified : tls.verification = .systemRoots ∨ tls.verification = .none) :
    checkTls files tls = .error fault := by
  rw [checkTls_pinned pinned verified]
  cases refused with
  | versions inverted => rw [inverted]; rfl
  | unknown ordered listed known unknown =>
      have failed := suitesNamed_eq_error.mpr ⟨_, _, _, listed, known, unknown, rfl⟩
      rw [if_pos ordered, checkSuites, failed]
      rfl
  | nothing ordered empty =>
      rw [if_pos ordered, empty]
      rfl
  | outside ordered filled known outside =>
      obtain ⟨suites, named⟩ := exists_suitesNamed known
      have each := suitesNamed_eq_ok.mp named
      have listed : suites ≠ [] := by
        rintro rfl
        exact filled (List.forall₂_nil_right_iff.mp each)
      have unusable : ¬ (suites.any fun suite => isWithin tls suite.version) = true := by
        rw [any_isWithin, exists_mem_of_named each]
        rintro ⟨name, member, suite, named, admits⟩
        exact outside name member suite named admits
      rw [if_pos ordered, checkSuites_of_named named, if_neg listed, if_neg unusable]

/-- A policy with a list of suites can be set up just if it is accepted, and is refused with the
first reason there is. -/
theorem setUp_by_suites (files : Files) (pinned : tls.cipherSuites = some names)
    (verified : tls.verification = .systemRoots ∨ tls.verification = .none) :
    (setUp files tls = .ok () ↔ Accepted tls names) ∧
      ∀ error, setUp files tls = .error error ↔
        ∃ fault, Refused tls names fault ∧ error = .tls fault.message := by
  have accepts (accepted : Accepted tls names) : setUp files tls = .ok () := by
    rw [setUp, checkTls_pinned pinned verified, if_pos accepted.ordered, accepted.checkSuites_eq]
  have refuses {fault : TlsFault} (refused : Refused tls names fault) :
      setUp files tls = .error (.tls fault.message) := by
    rw [setUp, refused.checkTls_eq pinned verified]
  refine ⟨⟨fun done => ?_, accepts⟩, fun error => ⟨fun failed => ?_, ?_⟩⟩
  · rcases accepted_or_refused tls names with accepted | ⟨fault, refused⟩
    · exact accepted
    · rw [refuses refused] at done
      cases done
  · rcases accepted_or_refused tls names with accepted | ⟨fault, refused⟩
    · rw [accepts accepted] at failed
      cases failed
    · rw [refuses refused] at failed
      cases failed
      exact ⟨fault, refused, rfl⟩
  · rintro ⟨fault, refused, rfl⟩
    exact refuses refused

/-- A policy with suites for both versions, of which it admits one; one is listed twice, with a
blank after it. -/
def mixedSuites : TlsConfig where
  verification := .none
  minVersion := .tls12
  maxVersion := .tls12
  cipherSuites := some ["TLS13_AES_128_GCM_SHA256", "TLS_ECDHE_RSA_WITH_AES_128_GCM_SHA256",
    "TLS13_AES_128_GCM_SHA256 "]

/-- The same with names of no suite further on, and the system's authorities. -/
def unknownSuites : TlsConfig where
  verification := .systemRoots
  minVersion := .tls12
  maxVersion := .tls12
  cipherSuites := some ["TLS13_AES_128_GCM_SHA256", " TLS_RSA", "", "TLS13_AES_128_GCM_SHA256"]

theorem setUp_by_suites_mixed :
    setUp .empty mixedSuites = .ok () ∧
      setUp .empty unknownSuites = .error (.tls "unknown cipher suite \" TLS_RSA\"") := by
  have later : Names "TLS13_AES_128_GCM_SHA256" ⟨"TLS13_AES_128_GCM_SHA256", .tls13⟩ :=
    ⟨by decide, by decide +kernel⟩
  have padded : Names "TLS13_AES_128_GCM_SHA256 " ⟨"TLS13_AES_128_GCM_SHA256", .tls13⟩ :=
    ⟨by decide, by decide +kernel⟩
  have earlier : Names "TLS_ECDHE_RSA_WITH_AES_128_GCM_SHA256"
      ⟨"TLS_ECDHE_RSA_WITH_AES_128_GCM_SHA256", .tls12⟩ := ⟨by decide, by decide +kernel⟩
  have unknown : ∀ suite, ¬ Names " TLS_RSA" suite := suiteNamed?_eq_none.mp (by decide +kernel)
  constructor
  · refine (setUp_by_suites .empty rfl (.inr rfl)).1.mpr ⟨rfl, List.cons_ne_nil _ _, ?_, ?_⟩
    · simp only [List.forall_mem_cons, List.not_mem_nil, false_implies, implies_true, and_true]
      exact ⟨⟨_, later⟩, ⟨_, earlier⟩, ⟨_, padded⟩⟩
    · exact ⟨_, List.mem_cons_of_mem _ List.mem_cons_self, _, earlier, rfl, rfl⟩
  · refine ((setUp_by_suites .empty rfl (.inl rfl)).2 _).mpr ⟨.unknownSuite " TLS_RSA", ?_, ?_⟩
    · exact .unknown rfl rfl (List.forall_mem_singleton.mpr ⟨_, later⟩) unknown
    · decide +kernel

end ClusterRest.Transport
