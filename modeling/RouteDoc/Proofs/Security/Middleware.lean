import RouteDoc.Security.Middleware
import RouteDoc.Proofs.Outcome
/-!
# RouteDoc.Proofs.Security.Middleware

**When middleware can be read.** The one thing that may fail is a rate limit: its parameters are
read as numbers when they hold nothing but digits (`Middleware.counts`), and there are digits that
belong to no numeral, and more digits than a numeral may have (`IsNumeral`).

`MiddlewareAnalysis.of_ok_iff` says that the middleware of a route can be read exactly when all of
these are numerals, and `MiddlewareAnalysis.security_of` that each middleware then adds its own
requirement.
-/

namespace RouteDoc

open Text

namespace Number

/-- Digits that make a numeral: all of them decimal, and not too many. -/
def IsNumeral (s : String) : Prop :=
  s.toList.all isDecimal = true ∧ s.toList.length ≤ maxDigits

instance : DecidablePred IsNumeral := fun s =>
  inferInstanceAs (Decidable (s.toList.all isDecimal = true ∧ s.toList.length ≤ maxDigits))

/-! ### Reading digits -/

/-- A digit in ASCII, if it is decimal; anything else as it is. -/
def plainDigit (c : Char) : Char :=
  match digitValue? c with
  | some n => Nat.digitChar n
  | none => c

theorem plainDigits_eq (cs : List Char) : plainDigits cs = cs.map plainDigit := rfl

theorem isDigit_digitChar : ∀ n < 10, (Nat.digitChar n).isDigit = true := by decide

theorem isDigit_plainDigit (c : Char) : (plainDigit c).isDigit = isDecimal c := by
  unfold plainDigit isDecimal
  cases hvalue : digitValue? c with
  | some n => exact isDigit_digitChar n (digitValue?_lt hvalue)
  | none =>
      -- the digits of ASCII have values
      cases hdigit : c.isDigit with
      | false => rfl
      | true =>
          have hrange : 48 ≤ c.toNat ∧ c.toNat ≤ 57 := by
            simpa [Char.isDigit, UInt32.le_iff_toNat_le] using hdigit
          have hascii : isAscii c = true := by
            simp only [isAscii, decide_eq_true_eq]
            omega
          simp [digitValue?, hascii, hrange] at hvalue

/-- A digit stays clear of the characters that mean something in a numeral. -/
theorem plainDigit_ne {c mark : Char} (h : isDigit c = true) (hmark : mark ∈ ['_', '-', '+']) :
    plainDigit c ≠ mark := by
  have hplain : isDigit mark = false ∧ mark.isDigit = false := by
    simp only [List.mem_cons, List.not_mem_nil, or_false] at hmark
    rcases hmark with rfl | rfl | rfl
    · decide
    · decide
    · decide
  intro heq
  cases hvalue : digitValue? c with
  | some n =>
      have hdecimal := isDigit_plainDigit c
      rw [heq, isDecimal, hvalue, hplain.2, Option.isSome_some] at hdecimal
      exact Bool.false_ne_true hdecimal
  | none =>
      have hsame : plainDigit c = c := by rw [plainDigit, hvalue]
      rw [← hsame, heq, hplain.1] at h
      exact Bool.false_ne_true h

theorem takeSign_of_forall {cs : List Char} (h : ∀ c ∈ cs, c ≠ '-' ∧ c ≠ '+') :
    takeSign cs = (false, cs) := by
  unfold takeSign
  split
  · exact absurd rfl (h '-' List.mem_cons_self).1
  · exact absurd rfl (h '+' List.mem_cons_self).2
  · rfl

theorem dropUnderscores?_of_forall {cs : List Char} (h : ∀ c ∈ cs, c ≠ '_') :
    dropUnderscores? cs = some cs := by
  have hgo : ∀ before, dropUnderscores?.go before cs = some cs := by
    induction cs with
    | nil => intro before; rfl
    | cons c rest ih =>
        intro before
        rw [dropUnderscores?.go]
        · rw [ih (fun d hd => h d (List.mem_cons_of_mem _ hd)), Option.map_some]
        · exact h c List.mem_cons_self
  exact hgo none

/-- Digits are read as an integer exactly when they make a numeral. -/
theorem isSome_readInt? {s : String} (h : isDigits s = true) :
    (readInt? s).isSome = true ↔ IsNumeral s := by
  obtain ⟨hnil, hall⟩ : s.toList ≠ [] ∧ ∀ c ∈ s.toList, isDigit c = true := by
    simpa [isDigits] using h
  have hclear : ∀ mark ∈ ['_', '-', '+'], ∀ c ∈ plainDigits s.toList, c ≠ mark := by
    intro mark hmark c hc
    obtain ⟨d, hd, rfl⟩ := List.mem_map.1 hc
    exact plainDigit_ne (hall d hd) hmark
  have hsign := takeSign_of_forall fun c hc =>
    ⟨hclear '-' (by decide) c hc, hclear '+' (by decide) c hc⟩
  have hdrop := dropUnderscores?_of_forall (hclear '_' (by decide))
  have hdigits : (plainDigits s.toList).all Char.isDigit = s.toList.all isDecimal := by
    rw [plainDigits_eq, List.all_map]
    exact congrArg s.toList.all (funext isDigit_plainDigit)
  have hlength : (plainDigits s.toList).length = s.toList.length := List.length_map _
  have hfilled : (plainDigits s.toList).isEmpty = false := by
    simpa [plainDigits] using hnil
  unfold readInt? IsNumeral
  rw [hsign]
  dsimp only
  rw [hdrop]
  dsimp only
  rw [hdigits, hlength, hfilled]
  cases s.toList.all isDecimal <;> simp

end Number

open Number

/-! ### One middleware -/

namespace Middleware

/-- The parameters that are read as numbers. -/
def counts (m : Middleware) : List String :=
  if m.name ∉ rateLimitNames then []
  else match m.parameters with
    | [] => []
    | [a] => if isDigits a then [a] else []
    | a :: b :: _ => if isDigits a && isDigits b then [a, b] else []

theorem readCount_ok_iff {s : String} (h : isDigits s = true) :
    (∃ n, readCount s = .ok n) ↔ IsNumeral s := by
  rw [← isSome_readInt? h]
  unfold readCount
  cases readInt? s with
  | some n => simp
  | none =>
      dsimp only
      split <;> simp

/-- A rate limit can be read exactly when all that is read as a number is a numeral. -/
theorem rateLimit?_ok_iff (m : Middleware) :
    (∃ limit, m.rateLimit? = .ok limit) ↔ ∀ s ∈ m.counts, IsNumeral s := by
  obtain ⟨name, full, parameters⟩ := m
  unfold rateLimit? counts
  dsimp only
  by_cases hname : name ∉ rateLimitNames
  · simp only [if_pos hname]
    simp
  · simp only [if_neg hname]
    -- no parameter, a number of requests, or requests and minutes
    rcases parameters with _ | ⟨a, _ | ⟨b, rest⟩⟩
    · simp
    · by_cases hdigits : isDigits a = true
      · simp only [if_pos hdigits, List.mem_singleton, forall_eq]
        rw [← readCount_ok_iff hdigits]
        cases readCount a <;> simp [bind, Except.bind, pure, Except.pure]
      · simp [hdigits]
    · by_cases hdigits : (isDigits a && isDigits b) = true
      · simp only [if_pos hdigits, List.mem_cons, List.not_mem_nil, or_false, forall_eq_or_imp,
          forall_eq]
        obtain ⟨ha, hb⟩ := Bool.and_eq_true_iff.1 hdigits
        rw [← readCount_ok_iff ha, ← readCount_ok_iff hb]
        cases readCount a <;> cases readCount b <;> simp [bind, Except.bind, pure, Except.pure]
      · simp only [if_neg hdigits]
        split <;> simp

end Middleware

/-! ### All middleware of a route -/

namespace MiddlewareAnalysis

variable (schemes : Table String SecuritySchemeConfig)

theorem add_ok_iff (a : MiddlewareAnalysis) (text : String) :
    (∃ a', add schemes a text = .ok a') ↔
      ∀ s ∈ (Middleware.parse text).counts, IsNumeral s := by
  rw [← Middleware.rateLimit?_ok_iff]
  unfold add
  dsimp only
  cases (Middleware.parse text).rateLimit? with
  | error f => simp [bind, Except.bind]
  | ok limit => simp [bind, Except.bind, pure, Except.pure]

/-- The middleware of a route can be read exactly when all that is read as a number is a numeral. -/
theorem of_ok_iff (middleware : List String) :
    (∃ a, of schemes middleware = .ok a) ↔
      ∀ text ∈ middleware, ∀ s ∈ (Middleware.parse text).counts, IsNumeral s := by
  unfold of
  -- whatever was collected before
  have hrun : ∀ start, (∃ a, middleware.foldlM (add schemes) start = .ok a) ↔
      ∀ text ∈ middleware, ∀ s ∈ (Middleware.parse text).counts, IsNumeral s := by
    induction middleware with
    | nil => intro start; simp [pure, Except.pure]
    | cons text rest ih =>
        intro start
        rw [List.foldlM_cons, List.forall_mem_cons, ← add_ok_iff schemes start text]
        cases hadd : add schemes start text with
        | error f => simp [bind, Except.bind]
        | ok next =>
            simp only [bind, Except.bind, ih next, Except.ok.injEq, exists_eq', true_and]
  exact hrun {}

/-- The requirements of middleware, one for each that has one. -/
def requirements (middleware : List String) : List SecurityRequirement :=
  middleware.filterMap fun text => (Middleware.parse text).requirement? schemes

variable {schemes} in
theorem security_of {middleware : List String} {a : MiddlewareAnalysis}
    (h : of schemes middleware = .ok a) : a.security = requirements schemes middleware := by
  -- whatever was collected before stands in front
  have hrun : ∀ start, middleware.foldlM (add schemes) start = .ok a →
      a.security = start.security ++ requirements schemes middleware := by
    clear h
    induction middleware with
    | nil =>
        intro start h
        obtain rfl := Except.ok.inj h
        exact (List.append_nil _).symm
    | cons text rest ih =>
        intro start h
        rw [List.foldlM_cons] at h
        obtain ⟨next, hadd, hrest⟩ := bind_eq_ok.1 h
        obtain ⟨limit, -, hnext⟩ := bind_eq_ok.1 hadd
        obtain rfl := Except.ok.inj hnext
        rw [ih _ hrest, requirements, requirements, List.filterMap_cons, List.append_assoc]
        cases (Middleware.parse text).requirement? schemes <;> rfl
  exact hrun {} h

end MiddlewareAnalysis

end RouteDoc
