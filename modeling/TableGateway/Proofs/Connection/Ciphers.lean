import TableGateway.Driver.Script
import TableGateway.Proofs.Connection.Course

/-!
# The cipher of a connection

A connection makes its cipher when it is first needed and keeps it.  It might as well make it
at once, or anew each time: a cipher that is kept is always the one of the configured key, and
apart from it nothing of the connection takes part in encryption or is touched by it.
-/

namespace TableGateway

def Config.newCipher (config : Config) : Except Error Cipher :=
  match config.cipherKey with
  | some raw => .ok (Cipher.ofRawKey raw config.padding)
  | none => .error .missingCipherKey

namespace Operation

def needsKey : Operation → Bool
  | .encrypt _ => true
  | .decrypt _ => true
  | _ => false

end Operation

namespace Connection

variable {σ η : Type} {d : Driver σ η} {c : Connection σ η} {op : Operation}
  {ops : List Operation}

def withCipher (c : Connection σ η) (cipher : Option Cipher) : Connection σ η :=
  { c with cipher := cipher }

def ready (c : Connection σ η) : Connection σ η :=
  c.withCipher c.config.newCipher.toOption

/-- Whether the cipher of a connection, if it has been made, is that of the configured key. -/
def Keyed (c : Connection σ η) : Prop :=
  ∀ cipher ∈ c.cipher, c.config.newCipher = .ok cipher

def face (c : Connection σ η) : σ × Config × StatementCache η × Option String :=
  (c.driver, c.config, c.statements, c.lastError)

theorem keyed_ofDriver (start : σ) (config : Config) :
    (ofDriver start config : Connection σ η).Keyed := by
  intro cipher hcipher
  contradiction

/-! ## Statements -/

theorem prepare_withCipher (d : Driver σ η) (c : Connection σ η) (cipher : Option Cipher)
    (sql : String) :
    (c.withCipher cipher).prepare d sql =
      ((c.prepare d sql).1, (c.prepare d sql).2.withCipher cipher) := by
  cases hkept : if c.config.cacheStatements then c.statements.get? sql else none with
  | some handle => rw [prepare_of_kept hkept, prepare_of_kept (c := c.withCipher cipher) hkept]
  | none =>
      rcases hprepare : d.prepare c.driver sql with ⟨fault | handle, next⟩
      · rw [prepare_of_error hkept hprepare,
          prepare_of_error (c := c.withCipher cipher) hkept hprepare]
        rfl
      · rw [prepare_of_ok hkept hprepare,
          prepare_of_ok (c := c.withCipher cipher) hkept hprepare]
        rfl

theorem query_withCipher (d : Driver σ η) (c : Connection σ η) (cipher : Option Cipher)
    (sql : String) (arguments : Arguments) :
    (c.withCipher cipher).query d sql arguments =
      ((c.query d sql arguments).1, (c.query d sql arguments).2.withCipher cipher) := by
  have hframe : prepare d { c.withCipher cipher with lastError := none } (Text.trimmed sql) =
      ((prepare d { c with lastError := none } (Text.trimmed sql)).1,
        (prepare d { c with lastError := none } (Text.trimmed sql)).2.withCipher cipher) :=
    prepare_withCipher d { c with lastError := none } cipher (Text.trimmed sql)
  rcases hprepare : prepare d { c with lastError := none } (Text.trimmed sql) with
    ⟨fault | handle, k⟩
  · rw [hprepare] at hframe
    rw [query_of_refused hprepare, query_of_refused hframe]
    rfl
  · rw [hprepare] at hframe
    rcases hexecute : d.execute k.driver handle arguments (Verb.classify (Text.trimmed sql)) with
      ⟨fault | output, next⟩
    · rw [query_of_failed hprepare hexecute, query_of_failed hframe hexecute]
      rfl
    · rw [query_of_executed hprepare hexecute, query_of_executed hframe hexecute]
      rfl

theorem query_cipher (d : Driver σ η) (c : Connection σ η) (sql : String)
    (arguments : Arguments) : (c.query d sql arguments).2.cipher = c.cipher :=
  congrArg (·.2.cipher) (query_withCipher d c c.cipher sql arguments)

/-! ## One operation -/

theorem useCipher_ready (c : Connection σ η) :
    c.ready.useCipher = (c.config.newCipher, c.ready) := by
  unfold ready withCipher useCipher Config.newCipher
  cases c.config.cipherKey <;> rfl

theorem ready_useCipher (c : Connection σ η) : c.useCipher.2.ready = c.ready := by
  rw [useCipher_snd]
  rfl

theorem Keyed.useCipher_fst (h : c.Keyed) : c.useCipher.1 = c.config.newCipher := by
  unfold useCipher
  cases hcipher : c.cipher with
  | some cipher => exact (h cipher hcipher).symm
  | none =>
      unfold Config.newCipher
      cases c.config.cipherKey <;> rfl

theorem Keyed.useCipher_snd (h : c.Keyed) : c.useCipher.2.Keyed := by
  unfold useCipher
  cases hcipher : c.cipher with
  | some cipher => exact h
  | none =>
      cases hkey : c.config.cipherKey with
      | some raw =>
          rintro cipher ⟨⟩
          change c.config.newCipher = _
          rw [Config.newCipher, hkey]
      | none => exact h

/-- A connection that has its cipher already gives the same answer, and is in the same state
once the other one has made its own. -/
theorem Keyed.perform (h : c.Keyed) (d : Driver σ η) (op : Operation) :
    (c.perform d op).2.Keyed ∧
      c.ready.perform d op = ((c.perform d op).1, (c.perform d op).2.ready) := by
  cases hasks : op.asks with
  | none =>
      cases op with
      | query => contradiction
      | execute => contradiction
      | select => contradiction
      | insert => contradiction
      | update => contradiction
      | delete => contradiction
      | encrypt plain =>
          refine ⟨h.useCipher_snd, ?_⟩
          simp only [Connection.perform, encrypt, useCipher_ready, ready_useCipher, h.useCipher_fst]
      | decrypt bytes =>
          refine ⟨h.useCipher_snd, ?_⟩
          simp only [Connection.perform, decrypt, useCipher_ready, ready_useCipher, h.useCipher_fst]
      | clearStatements => exact ⟨h, rfl⟩
  | some asked =>
      cases asked with
      | error e =>
          rw [perform_of_rejected hasks, perform_of_rejected hasks]
          exact ⟨h, rfl⟩
      | ok asked =>
          have hconfig := perform_config d c op
          rw [perform_of_asks hasks] at hconfig
          rw [perform_of_asks hasks, perform_of_asks hasks, ready, query_withCipher]
          refine ⟨?_, by rw [ready, hconfig]⟩
          intro cipher hcipher
          rw [query_cipher] at hcipher
          rw [hconfig]
          exact h cipher hcipher

theorem ready_perform (h : op.needsKey) (d : Driver σ η) (c : Connection σ η) :
    (c.perform d op).2.ready = c.ready := by
  cases op with
  | encrypt => exact ready_useCipher c
  | decrypt => exact ready_useCipher c
  | query => contradiction
  | execute => contradiction
  | select => contradiction
  | insert => contradiction
  | update => contradiction
  | delete => contradiction
  | clearStatements => contradiction

theorem Keyed.perform_encrypt (h : c.Keyed) (d : Driver σ η) (plain : Option (List UInt8)) :
    (c.perform d (.encrypt plain)).1 = (c.config.newCipher.map (·.encrypt plain)).map .bytes := by
  rw [← h.useCipher_fst]
  rfl

theorem Keyed.perform_decrypt (h : c.Keyed) (d : Driver σ η) (bytes : Option (List UInt8)) :
    (c.perform d (.decrypt bytes)).1 = (c.config.newCipher.bind (·.decrypt bytes)).map .bytes := by
  rw [← h.useCipher_fst]
  rfl

/-! ## Lists of operations -/

theorem Keyed.run (h : c.Keyed) (d : Driver σ η) (ops : List Operation) :
    (c.run d ops).2.Keyed := by
  induction ops generalizing c with
  | nil => exact h
  | cons op ops ih => exact ih (h.perform d op).1

theorem getElem?_run (d : Driver σ η) (c : Connection σ η) (ops : List Operation) (i : Nat) :
    (c.run d ops).1[i]? =
      ops[i]?.map fun op => ((c.run d (ops.take i)).2.perform d op).1 := by
  induction ops generalizing c i with
  | nil => rfl
  | cons op ops ih =>
      cases i with
      | zero => rfl
      | succ i => simp [run_cons, ih]

theorem exists_keyed_of_getElem? (d : Driver σ η) (start : σ) (config : Config) {i : Nat}
    (h : ops[i]? = some op) :
    ∃ k : Connection σ η, k.Keyed ∧ k.config = config ∧
      ((ofDriver start config).run d ops).1[i]? = some (k.perform d op).1 := by
  refine ⟨_, (keyed_ofDriver start config).run d (ops.take i), run_config d _ _, ?_⟩
  rw [getElem?_run, h, Option.map_some]

theorem Keyed.observed_ready (h : c.Keyed) (d : Driver σ η) (ops : List Operation) :
    observed face d c.ready ops = observed face d c ops := by
  induction ops generalizing c with
  | nil => rfl
  | cons op ops ih =>
      obtain ⟨hkeyed, hready⟩ := h.perform d op
      rw [observed, observed, hready, ih hkeyed]
      rfl

theorem Keyed.observed_eraseIdx (h : c.Keyed) (d : Driver σ η) {i : Nat}
    (hop : ops[i]? = some op) (hkey : op.needsKey) :
    observed face d c (ops.eraseIdx i) = (observed face d c ops).eraseIdx i := by
  induction ops generalizing c i with
  | nil => contradiction
  | cons first ops ih =>
      have hkeyed := (h.perform d first).1
      cases i with
      | zero =>
          cases hop
          calc observed face d c ops = observed face d c.ready ops := (h.observed_ready d ops).symm
            _ = observed face d (c.perform d op).2.ready ops := by rw [ready_perform hkey]
            _ = observed face d (c.perform d op).2 ops := hkeyed.observed_ready d ops
      | succ i => exact congrArg _ (ih hkeyed hop)

/-- Every answer to an operation on the key is what a new cipher of that key gives, or says that
there is no key, whatever was done before.  Such an operation, a failed one as well, changes
nothing in what comes after it: without it the others are answered alike and leave the same
driver, handles and last failure behind.  A connection that has its cipher from the start
cannot be told apart. -/
theorem encrypts_as_new_cipher (d : Driver σ η) (start : σ) (config : Config)
    (ops : List Operation) :
    let answers := ((ofDriver start config).run d ops).1
    (∀ raw, config.cipherKey = some raw → ∀ i : Nat,
      (∀ plain, ops[i]? = some (.encrypt plain) →
        answers[i]? = some (.ok (.bytes ((Cipher.ofRawKey raw config.padding).encrypt plain)))) ∧
      (∀ bytes, ops[i]? = some (.decrypt bytes) →
        answers[i]? =
          some (((Cipher.ofRawKey raw config.padding).decrypt bytes).map Answer.bytes)) ∧
      (ops[i]? = some (.encrypt none) ∨ ops[i]? = some (.decrypt none) →
        answers[i]? = some (.ok (.bytes none)))) ∧
    (config.cipherKey = none → ∀ (i : Nat) data,
      ops[i]? = some (.encrypt data) ∨ ops[i]? = some (.decrypt data) →
        answers[i]? = some (.error .missingCipherKey)) ∧
    (∀ (i : Nat) op, ops[i]? = some op → op.needsKey →
      observed face d (ofDriver start config) (ops.eraseIdx i) =
        (observed face d (ofDriver start config) ops).eraseIdx i) ∧
    observed face d (ofDriver start config).ready ops =
      observed face d (ofDriver start config) ops := by
  intro answers
  have hencrypt : ∀ (i : Nat) plain, ops[i]? = some (.encrypt plain) →
      answers[i]? = some ((config.newCipher.map (·.encrypt plain)).map .bytes) := by
    intro i plain hop
    obtain ⟨k, hkeyed, rfl, hanswer⟩ := exists_keyed_of_getElem? d start config hop
    rw [hanswer, hkeyed.perform_encrypt]
  have hdecrypt : ∀ (i : Nat) bytes, ops[i]? = some (.decrypt bytes) →
      answers[i]? = some ((config.newCipher.bind (·.decrypt bytes)).map .bytes) := by
    intro i bytes hop
    obtain ⟨k, hkeyed, rfl, hanswer⟩ := exists_keyed_of_getElem? d start config hop
    rw [hanswer, hkeyed.perform_decrypt]
  refine ⟨fun raw hkey i => ?_, fun hkey i data hop => ?_, fun i op hop hkey =>
    (keyed_ofDriver start config).observed_eraseIdx d hop hkey,
    (keyed_ofDriver start config).observed_ready d ops⟩
  · have hnew : config.newCipher = .ok (Cipher.ofRawKey raw config.padding) := by
      rw [Config.newCipher, hkey]
    rw [hnew] at hencrypt hdecrypt
    refine ⟨hencrypt i, hdecrypt i, ?_⟩
    rintro (hop | hop)
    · exact hencrypt i none hop
    · exact hdecrypt i none hop
  · have hnew : config.newCipher = .error .missingCipherKey := by rw [Config.newCipher, hkey]
    rw [hnew] at hencrypt hdecrypt
    rcases hop with hop | hop
    · exact hencrypt i data hop
    · exact hdecrypt i data hop

/-- The key is empty, and the first decryption fails. -/
theorem encrypts_as_new_cipher_refused :
    let config := { Config.ofUrl "mysql://a" with cipherKey := some [] }
    let ops : List Operation := [.decrypt (some [1]), .query "SELECT 1" .none, .decrypt none]
    let answers := ((ofDriver Script.fresh config).run Script.driver ops).1
    answers[0]? = some (.error (.cipher (.length 1))) ∧ answers[2]? = some (.ok (.bytes none)) ∧
    observed face Script.driver (ofDriver Script.fresh config) (ops.eraseIdx 0) =
      (observed face Script.driver (ofDriver Script.fresh config) ops).eraseIdx 0 := by
  intro config ops answers
  obtain ⟨hkey, -, herase, -⟩ := encrypts_as_new_cipher Script.driver Script.fresh config ops
  exact ⟨(hkey [] rfl 0).2.1 (some [1]) rfl, (hkey [] rfl 2).2.2 (.inr rfl),
    herase 0 (.decrypt (some [1])) rfl rfl⟩

end Connection

end TableGateway
