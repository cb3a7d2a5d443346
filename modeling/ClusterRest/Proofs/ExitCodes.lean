import ClusterRest.CommandLine.Failure

/-!
Exit codes of errors between a client and a cluster. Main statement: the class of an error decides
the code, whether the endpoint is known or not, and whatever made a renewed login fail.
-/

namespace ClusterRest

namespace ClientError

/-- A login failed, directly or as a session was to be renewed. -/
inductive IsLoginFailure : ClientError → Prop where
  | refused : IsLoginFailure .authenticationFailed
  | untold : IsLoginFailure .sessionTokenMissing
  | unexpected (status : Nat) (body : String) : IsLoginFailure (.loginRefused status body)
  | renewed (cause : ClientError) : IsLoginFailure (.reauthenticationFailed cause)

/-- The cluster reports a failure with a status. -/
def HasStatus (error : ClientError) (status : Nat) : Prop :=
  ∃ reply, error = .reply reply ∧ reply.status = status

/-- No connection could be made. -/
def Unconnected (error : ClientError) : Prop := ∃ url, error = .transport (.connecting url)

variable {error : ClientError} {status : Nat}

theorem isLoginFailure_iff : error.isLoginFailure = true ↔ error.IsLoginFailure := by
  constructor
  · intro failed
    cases error with
    | authenticationFailed => exact .refused
    | sessionTokenMissing => exact .untold
    | loginRefused status body => exact .unexpected status body
    | reauthenticationFailed cause => exact .renewed cause
    | _ => cases failed
  · rintro (_ | _ | _ | _) <;> rfl

theorem status?_eq_some : error.status? = some status ↔ error.HasStatus status := by
  cases error <;> simp [status?, HasStatus]

theorem isUnauthorized_iff : error.isUnauthorized = true ↔ error.HasStatus 401 := by
  rw [isUnauthorized, beq_iff_eq, status?_eq_some]
  rfl

theorem isNotFound_iff : error.isNotFound = true ↔ error.HasStatus 404 := by
  rw [isNotFound, beq_iff_eq, status?_eq_some]
  rfl

theorem isConnectFailure_iff : error.isConnectFailure = true ↔ error.Unconnected := by
  constructor
  · intro failed
    cases error with
    | transport failure =>
        cases failure with
        | connecting url => exact ⟨url, rfl⟩
        | sending | building => cases failed
    | _ => cases failed
  · rintro ⟨url, rfl⟩
    rfl

end ClientError

namespace CommandLine.Failure

open ClientError (IsLoginFailure HasStatus Unconnected isLoginFailure_iff isUnauthorized_iff
  isNotFound_iff isConnectFailure_iff)

variable {error : ClientError} {code : Nat}

theorem ofClientError_authentication (failed : IsLoginFailure error ∨ HasStatus error 401) :
    ofClientError error = .authentication error.message := by
  unfold ofClientError
  rw [if_pos]
  rwa [Bool.or_eq_true, isLoginFailure_iff, isUnauthorized_iff]

theorem ofClientError_notFound (replied : HasStatus error 404) :
    ofClientError error = .notFound error.message := by
  obtain ⟨reply, rfl, status⟩ := replied
  have found : ¬ (IsLoginFailure (.reply reply) ∨ HasStatus (.reply reply) 401) := by
    rintro (failed | ⟨_, same, other⟩)
    · cases failed
    · cases same
      exact absurd (status.symm.trans other) (by decide)
  unfold ofClientError
  rw [if_neg, if_pos]
  · exact isNotFound_iff.mpr ⟨reply, rfl, status⟩
  · rwa [Bool.or_eq_true, isLoginFailure_iff, isUnauthorized_iff]

theorem ofClientError_unconnected (unconnected : Unconnected error) :
    ofClientError error = .unreachable "(unknown)" error := by
  obtain ⟨url, rfl⟩ := unconnected
  rfl

/-- The code that scripts see, by the class of an error. -/
inductive ExitClass : ClientError → Nat → Prop where
  | login {error : ClientError} (failed : IsLoginFailure error) : ExitClass error 3
  | unauthorized {error : ClientError} (replied : HasStatus error 401) : ExitClass error 3
  | notFound {error : ClientError} (replied : HasStatus error 404) : ExitClass error 4
  | timeout (limit : Duration) : ExitClass (.timeout limit) 8
  | tls (reason : String) : ExitClass (.tls reason) 7
  | unconnected {error : ClientError} (unconnected : Unconnected error) : ExitClass error 7
  | missingConfig (field : RequiredField) : ExitClass (.missingConfig field) 2
  | invalidHeader (reason : String) : ExitClass (.invalidHeader reason) 2
  | other {error : ClientError} (login : ¬ IsLoginFailure error)
      (unauthorized : ¬ HasStatus error 401) (notFound : ¬ HasStatus error 404)
      (timeout : ∀ limit, error ≠ .timeout limit)
      (tls : ∀ reason, error ≠ .tls reason) (connected : ¬ Unconnected error)
      (missingConfig : ∀ field, error ≠ .missingConfig field)
      (invalidHeader : ∀ reason, error ≠ .invalidHeader reason) : ExitClass error 1

theorem exists_exitClass (error : ClientError) : ∃ code, ExitClass error code := by
  by_cases login : IsLoginFailure error
  · exact ⟨3, .login login⟩
  by_cases unauthorized : HasStatus error 401
  · exact ⟨3, .unauthorized unauthorized⟩
  by_cases notFound : HasStatus error 404
  · exact ⟨4, .notFound notFound⟩
  by_cases connected : Unconnected error
  · exact ⟨7, .unconnected connected⟩
  by_cases timeout : ∃ limit, error = .timeout limit
  · obtain ⟨limit, rfl⟩ := timeout
    exact ⟨8, .timeout limit⟩
  by_cases tls : ∃ reason, error = .tls reason
  · obtain ⟨reason, rfl⟩ := tls
    exact ⟨7, .tls reason⟩
  by_cases missingConfig : ∃ field, error = .missingConfig field
  · obtain ⟨field, rfl⟩ := missingConfig
    exact ⟨2, .missingConfig field⟩
  by_cases invalidHeader : ∃ reason, error = .invalidHeader reason
  · obtain ⟨reason, rfl⟩ := invalidHeader
    exact ⟨2, .invalidHeader reason⟩
  exact ⟨1, .other login unauthorized notFound (not_exists.mp timeout) (not_exists.mp tls)
    connected (not_exists.mp missingConfig) (not_exists.mp invalidHeader)⟩

theorem ExitClass.exitCode_eq (exits : ExitClass error code) :
    (ofClientError error).exitCode = code := by
  cases exits with
  | login failed => rw [ofClientError_authentication (.inl failed)]; rfl
  | unauthorized replied => rw [ofClientError_authentication (.inr replied)]; rfl
  | notFound replied => rw [ofClientError_notFound replied]; rfl
  | timeout | tls | missingConfig | invalidHeader => rfl
  | unconnected unconnected => rw [ofClientError_unconnected unconnected]; rfl
  | other login unauthorized notFound timeout tls connected missingConfig invalidHeader =>
      unfold ofClientError
      rw [if_neg, if_neg]
      · split
        next limit => exact absurd rfl (timeout limit)
        next reason => exact absurd rfl (tls reason)
        next field => exact absurd rfl (missingConfig field)
        next reason => exact absurd rfl (invalidHeader reason)
        next => rfl
        next =>
          rw [if_neg (mt isConnectFailure_iff.mp connected)]
          rfl
      · rwa [isNotFound_iff]
      · rw [Bool.or_eq_true, isLoginFailure_iff, isUnauthorized_iff]
        exact not_or.mpr ⟨login, unauthorized⟩

theorem exitCode_eq_iff : (ofClientError error).exitCode = code ↔ ExitClass error code := by
  obtain ⟨other, exits⟩ := exists_exitClass error
  constructor
  · intro given
    rwa [← given, exits.exitCode_eq]
  · exact ExitClass.exitCode_eq

theorem exitClass_login : ExitClass error 3 ↔ IsLoginFailure error ∨ HasStatus error 401 := by
  constructor
  · intro exits
    cases exits with
    | login failed => exact .inl failed
    | unauthorized replied => exact .inr replied
  · rintro (failed | replied)
    · exact .login failed
    · exact .unauthorized replied

theorem exitClass_notFound : ExitClass error 4 ↔ HasStatus error 404 := by
  constructor
  · intro exits
    cases exits with
    | notFound replied => exact replied
  · exact .notFound

theorem exitClass_timeout : ExitClass error 8 ↔ ∃ limit, error = .timeout limit := by
  constructor
  · intro exits
    cases exits with
    | timeout limit => exact ⟨limit, rfl⟩
  · rintro ⟨limit, rfl⟩
    exact .timeout limit

theorem exitClass_connection :
    ExitClass error 7 ↔ (∃ reason, error = .tls reason) ∨ Unconnected error := by
  constructor
  · intro exits
    cases exits with
    | tls reason => exact .inl ⟨reason, rfl⟩
    | unconnected unconnected => exact .inr unconnected
  · rintro (⟨reason, rfl⟩ | unconnected)
    · exact .tls reason
    · exact .unconnected unconnected

theorem exitClass_misuse :
    ExitClass error 2 ↔
      (∃ field, error = .missingConfig field) ∨ ∃ reason, error = .invalidHeader reason := by
  constructor
  · intro exits
    cases exits with
    | missingConfig field => exact .inl ⟨field, rfl⟩
    | invalidHeader reason => exact .inr ⟨reason, rfl⟩
  · rintro (⟨field, rfl⟩ | ⟨reason, rfl⟩)
    · exact .missingConfig field
    · exact .invalidHeader reason

theorem ExitClass.mem (exits : ExitClass error code) : code = 1 ∨ code ∈ [2, 3, 4, 7, 8] := by
  cases exits with
  | other => exact .inl rfl
  | _ => exact .inr (by decide)

/-! ### With the endpoint and without -/

theorem ofConnectError_cases (error : ClientError) (endpoint : String) :
    Unconnected error ∧ ofConnectError error endpoint = .unreachable endpoint error ∧
        ofClientError error = .unreachable "(unknown)" error ∨
      ¬ Unconnected error ∧ ofConnectError error endpoint = ofClientError error := by
  by_cases unconnected : Unconnected error
  · refine .inl ⟨unconnected, ?_, ofClientError_unconnected unconnected⟩
    rw [ofConnectError, if_pos (isConnectFailure_iff.mpr unconnected)]
  · refine .inr ⟨unconnected, ?_⟩
    rw [ofConnectError, if_neg (mt isConnectFailure_iff.mp unconnected)]

theorem exitCode_ofConnectError (error : ClientError) (endpoint : String) :
    (ofConnectError error endpoint).exitCode = (ofClientError error).exitCode := by
  rcases ofConnectError_cases error endpoint with ⟨-, named, unnamed⟩ | ⟨-, same⟩
  · rw [named, unnamed]
    rfl
  · rw [same]

/-- The code of an error tells its class. Only an error for lack of a connection is presented in
two ways, with the endpoint and without, and the code is the same. -/
theorem exitCode_by_class (error : ClientError) (endpoint : String) :
    let code := (ofClientError error).exitCode
    (ofConnectError error endpoint).exitCode = code ∧
    (code = 3 ↔ IsLoginFailure error ∨ HasStatus error 401) ∧
    (code = 4 ↔ HasStatus error 404) ∧
    (code = 8 ↔ ∃ limit, error = .timeout limit) ∧
    (code = 7 ↔ (∃ reason, error = .tls reason) ∨ Unconnected error) ∧
    (code = 2 ↔ (∃ field, error = .missingConfig field) ∨ ∃ reason, error = .invalidHeader reason) ∧
    (code = 1 ∨ code ∈ [2, 3, 4, 7, 8]) ∧
    (∀ cause, (ofClientError (.reauthenticationFailed cause)).exitCode = 3 ∧
      (ofConnectError (.reauthenticationFailed cause) endpoint).exitCode = 3) ∧
    (Unconnected error ∧ ofConnectError error endpoint = .unreachable endpoint error ∧
        ofClientError error = .unreachable "(unknown)" error ∨
      ¬ Unconnected error ∧ ofConnectError error endpoint = ofClientError error) := by
  intro code
  have classed {other : Nat} : code = other ↔ ExitClass error other := exitCode_eq_iff
  refine ⟨exitCode_ofConnectError error endpoint, classed.trans exitClass_login,
    classed.trans exitClass_notFound, classed.trans exitClass_timeout,
    classed.trans exitClass_connection, classed.trans exitClass_misuse, (classed.mp rfl).mem,
    fun cause => ?_, ofConnectError_cases error endpoint⟩
  rw [exitCode_ofConnectError, and_self]
  exact (ExitClass.login (.renewed cause)).exitCode_eq

end CommandLine.Failure

end ClusterRest
