import CloudSynth.Proofs.Auth.Registration
import CloudSynth.Proofs.Text.Occurrences

/-!
# Consistent auth properties

For each fault there is a condition on the properties that keeps clear of it
(`AuthProperties.Avoids`). The conditions are looked at in a fixed order, and the first one that does
not hold is reported; what comes after it is not looked at. The relation `Reports` says this of any
part of the checks, together with the faults that the part answers for. One part after the other
reports what the parts do (`Reports.bind`), so it is enough to look at each part by itself.

Properties are therefore accepted exactly if all conditions hold, and are otherwise refused with the
message of the first fault, before anything is registered
(`AuthProperties.check_reports_first`).
-/

namespace CloudSynth

variable {φ : Type}

/-! ## Conditions -/

/-- The faults in the order in which they are looked for. -/
def AuthFault.inOrder : List AuthFault :=
  [loginMissing, emailCodeMissing, emailLinkMissing, phoneCodeMissing, smsFactorMissing,
   factorCodeMissing, callerIncomplete, keysDiffer, callbackUrlsMissing, domainMissing,
   logoutUrlsMissing]

theorem AuthFault.mem_inOrder (fault : AuthFault) : fault ∈ inOrder := by
  cases fault <;> decide

/-- The condition under which there is no such fault. -/
def AuthProperties.Avoids (properties : AuthProperties φ) : AuthFault → Prop
  | .loginMissing => properties.email ≠ none ∨ properties.phone ≠ none
  | .emailCodeMissing => ∀ email, properties.email = some email → email.style = .code →
      ∀ body, email.body = some body → Contains (body.render codePlaceholder) codePlaceholder
  | .emailLinkMissing => ∀ email, properties.email = some email → email.style = .link →
      ∀ body, email.body = some body → ContainsLink (body.render linkPlaceholder)
  | .phoneCodeMissing => ∀ phone, properties.phone = some phone →
      ∀ message, phone.message = some message →
        Contains (message.render codePlaceholder) codePlaceholder
  | .smsFactorMissing => ∀ multifactor, properties.multifactor = some multifactor →
      multifactor.mode ≠ .off → properties.phone ≠ none → multifactor.sms ≠ none
  | .factorCodeMissing => ∀ multifactor, properties.multifactor = some multifactor →
      multifactor.mode ≠ .off → ∀ sms, multifactor.sms = some sms →
        ∀ message, sms.message = some message →
          Contains (message.render codePlaceholder) codePlaceholder
  | .callerIncomplete => ∀ externalId callerArn region,
      properties.smsSender = some (.sns externalId callerArn region) →
        (externalId = none ↔ callerArn = none)
  | .keysDiffer => ∀ mailing, properties.emailSender = some (.custom mailing) →
      ∀ texting, properties.smsSender = some (.custom texting) →
        ∀ mailKey, mailing.keyArn = some mailKey → ∀ textKey, texting.keyArn = some textKey →
          mailKey = textKey
  | .callbackUrlsMissing => ∀ federation, properties.federation = some federation →
      federation.providers ≠ [] → federation.callbackUrls ≠ []
  | .domainMissing => ∀ federation, properties.federation = some federation →
      federation.providers ≠ [] → federation.domainStart ≠ none
  | .logoutUrlsMissing => ∀ federation, properties.federation = some federation →
      federation.providers ≠ [] → federation.logoutUrls ≠ []

/-! ## Reports -/

/-- The first of the faults that is not avoided is the answer of a check. -/
inductive Reports (avoids : AuthFault → Prop) : List AuthFault → Except AuthFault Unit → Prop
  | done : Reports avoids [] (.ok ())
  | found {fault : AuthFault} {faults : List AuthFault} (there : ¬ avoids fault) :
      Reports avoids (fault :: faults) (.error fault)
  | avoided {fault : AuthFault} {faults : List AuthFault} {answer : Except AuthFault Unit}
      (clear : avoids fault) (later : Reports avoids faults answer) :
      Reports avoids (fault :: faults) answer

namespace Reports

variable {avoids : AuthFault → Prop} {faults more : List AuthFault}
  {answer next : Except AuthFault Unit}

theorem eq_ok_iff (reports : Reports avoids faults answer) :
    answer = .ok () ↔ ∀ fault ∈ faults, avoids fault := by
  induction reports with
  | done => simp
  | found there => simp [there]
  | avoided clear _ inner => simp [clear, inner]

theorem eq_error_iff (reports : Reports avoids faults answer) {fault : AuthFault} :
    answer = .error fault ↔ ∃ before after, faults = before ++ fault :: after ∧
      (∀ earlier ∈ before, avoids earlier) ∧ ¬ avoids fault := by
  induction reports with
  | done => simp
  | @found first faults there =>
      constructor
      · rintro ⟨⟩
        exact ⟨[], faults, rfl, nofun, there⟩
      · rintro ⟨_ | ⟨head, before⟩, after, split, clear, _⟩
        · rw [(List.cons.inj split).1]
        · -- The fault that was found stands before any later one and would have to be avoided.
          rw [(List.cons.inj split).1] at there
          exact absurd (clear head List.mem_cons_self) there
  | @avoided first faults answer clear _ inner =>
      rw [inner]
      constructor
      · rintro ⟨before, after, rfl, others, there⟩
        exact ⟨first :: before, after, rfl, List.forall_mem_cons.mpr ⟨clear, others⟩, there⟩
      · rintro ⟨_ | ⟨head, before⟩, after, split, others, there⟩
        · rw [(List.cons.inj split).1] at clear
          exact absurd clear there
        · exact ⟨before, after, (List.cons.inj split).2, (List.forall_mem_cons.mp others).2, there⟩

/-- One check after another answers for the faults of both. -/
theorem bind (reports : Reports avoids faults answer) (later : Reports avoids more next) :
    Reports avoids (faults ++ more) (answer >>= fun _ => next) := by
  induction reports with
  | done => exact later
  | found there => exact .found there
  | avoided clear _ inner => exact .avoided clear inner

/-- A check answers for faults that are avoided without looking at them. -/
theorem append (reports : Reports avoids faults answer) (clear : ∀ fault ∈ more, avoids fault) :
    Reports avoids (faults ++ more) answer := by
  induction reports with
  | done =>
      induction more with
      | nil => exact .done
      | cons fault more inner =>
          rw [List.forall_mem_cons] at clear
          exact .avoided clear.1 (inner clear.2)
  | found there => exact .found there
  | avoided clear _ inner => exact .avoided clear inner

theorem of_avoided (clear : ∀ fault ∈ faults, avoids fault) : Reports avoids faults (.ok ()) :=
  Reports.done.append clear

theorem of_require {condition : Bool} {fault : AuthFault}
    (same : condition = true ↔ avoids fault) :
    Reports avoids [fault] (AuthProperties.require condition fault) := by
  cases condition with
  | false => exact .found (by simp [← same])
  | true => exact .avoided (same.mp rfl) .done

end Reports

theorem messageSatisfies_iff {condition : MessageTemplate → Bool}
    {message : Option MessageTemplate} :
    messageSatisfies condition message = true ↔
      ∀ template, message = some template → condition template = true := by
  cases message <;> simp [messageSatisfies]

namespace AuthProperties

variable (properties : AuthProperties φ)

/-! ## Each check -/

theorem reports_email :
    Reports properties.Avoids [.emailCodeMissing, .emailLinkMissing]
      (properties.email.forM checkEmail) := by
  cases given : properties.email with
  | none => exact .of_avoided (by simp [Avoids, given])
  | some email =>
      change Reports _ _ (checkEmail email)
      unfold checkEmail
      split
      · next code =>
          refine Reports.append (.of_require ?_) (by simp [Avoids, given, code])
          simp [Avoids, given, code, messageSatisfies_iff, MessageTemplate.showsCode_iff]
      · next link =>
          refine .avoided (by simp [Avoids, given, link]) (.of_require ?_)
          simp [Avoids, given, link, messageSatisfies_iff, MessageTemplate.showsLink_iff]

theorem reports_phone :
    Reports properties.Avoids [.phoneCodeMissing]
      (require (messageSatisfies (·.showsCode) (properties.phone.bind (·.message)))
        .phoneCodeMissing) := by
  refine .of_require ?_
  cases given : properties.phone <;>
    simp [Avoids, given, messageSatisfies_iff, MessageTemplate.showsCode_iff]

theorem reports_multifactor :
    Reports properties.Avoids [.smsFactorMissing, .factorCodeMissing]
      (properties.multifactor.forM fun multifactor =>
        checkMultifactor multifactor properties.phone.isSome) := by
  cases given : properties.multifactor with
  | none => exact .of_avoided (by simp [Avoids, given])
  | some multifactor =>
      change Reports _ _ (checkMultifactor multifactor properties.phone.isSome)
      unfold checkMultifactor
      split
      · next off => exact .of_avoided (by simp [Avoids, given, off])
      · next on =>
          refine Reports.bind (.of_require ?_) (.of_require ?_)
          · cases phone : properties.phone <;>
              simp [Avoids, given, on, phone, Option.isSome_iff_ne_none]
          · cases sms : multifactor.sms <;>
              simp [Avoids, given, on, sms, messageSatisfies_iff, MessageTemplate.showsCode_iff]

theorem reports_caller :
    Reports properties.Avoids [.callerIncomplete] (checkCaller properties.smsSender) := by
  unfold checkCaller
  split
  · next externalId callerArn region given =>
      refine .of_require ?_
      cases externalId <;> cases callerArn <;> simp [Avoids, given]
  · next other =>
      refine .of_avoided ?_
      simp only [List.forall_mem_singleton, Avoids]
      intro externalId callerArn region given
      exact absurd given (other externalId callerArn region)

theorem emailKey?_eq_some_iff {key : String} : properties.emailKey? = some key ↔
    ∃ sender, properties.emailSender = some (.custom sender) ∧ sender.keyArn = some key := by
  rcases given : properties.emailSender with _ | _ | sender <;>
    simp [emailKey?, given, EmailSender.custom?]

theorem smsKey?_eq_some_iff {key : String} : properties.smsKey? = some key ↔
    ∃ sender, properties.smsSender = some (.custom sender) ∧ sender.keyArn = some key := by
  rcases given : properties.smsSender with _ | _ | sender <;>
    simp [smsKey?, given, SmsSender.custom?]

/-- The senders that the condition speaks of are those that the keys are taken from. -/
theorem avoids_keysDiffer_iff : properties.Avoids .keysDiffer ↔
    ∀ mailKey, properties.emailKey? = some mailKey →
      ∀ textKey, properties.smsKey? = some textKey → mailKey = textKey := by
  constructor
  · intro avoids mailKey mailing textKey texting
    rcases properties.emailKey?_eq_some_iff.mp mailing with ⟨mailer, isMailer, mailerKey⟩
    rcases properties.smsKey?_eq_some_iff.mp texting with ⟨texter, isTexter, texterKey⟩
    exact avoids mailer isMailer texter isTexter mailKey mailerKey textKey texterKey
  · intro same mailer isMailer texter isTexter mailKey mailerKey textKey texterKey
    exact same mailKey (properties.emailKey?_eq_some_iff.mpr ⟨mailer, isMailer, mailerKey⟩)
      textKey (properties.smsKey?_eq_some_iff.mpr ⟨texter, isTexter, texterKey⟩)

theorem reports_keys : Reports properties.Avoids [.keysDiffer] properties.checkKeys := by
  have avoids := properties.avoids_keysDiffer_iff
  unfold checkKeys
  split
  · next mailKey textKey mailing texting =>
      refine .of_require ?_
      simp [avoids, mailing, texting]
  · next apart =>
      refine .of_avoided ?_
      rw [List.forall_mem_singleton, avoids]
      intro mailKey mailing textKey texting
      exact absurd texting (apart mailKey textKey mailing)

theorem reports_federation :
    Reports properties.Avoids [.callbackUrlsMissing, .domainMissing, .logoutUrlsMissing]
      (properties.federation.forM checkFederation) := by
  cases given : properties.federation with
  | none => exact .of_avoided (by simp [Avoids, given])
  | some federation =>
      change Reports _ _ (checkFederation federation)
      unfold checkFederation
      split
      · next none =>
          have none := List.isEmpty_iff.mp none
          exact .of_avoided (by simp [Avoids, given, none])
      · next some =>
          have some : federation.providers ≠ [] := by simpa using some
          refine Reports.bind (.of_require ?_) (Reports.bind (.of_require ?_) (.of_require ?_))
          · simp [Avoids, given, some]
          · simp [Avoids, given, some, Option.isSome_iff_ne_none]
          · simp [Avoids, given, some]

theorem reports_check : Reports properties.Avoids AuthFault.inOrder properties.check := by
  have login : Reports properties.Avoids [.loginMissing]
      (require (properties.email.isSome || properties.phone.isSome) .loginMissing) := by
    refine .of_require ?_
    simp [Avoids, Option.isSome_iff_ne_none]
  exact login.bind (properties.reports_email.bind (properties.reports_phone.bind
    (properties.reports_multifactor.bind (properties.reports_caller.bind
      (properties.reports_keys.bind properties.reports_federation)))))

/-- The fault is the first one, in their order, of which the properties do not keep clear. -/
def FirstFault (fault : AuthFault) : Prop :=
  ∃ before after, AuthFault.inOrder = before ++ fault :: after ∧
    (∀ earlier ∈ before, properties.Avoids earlier) ∧ ¬ properties.Avoids fault

theorem check_eq_ok_iff : properties.check = .ok () ↔ ∀ fault, properties.Avoids fault := by
  rw [properties.reports_check.eq_ok_iff]
  exact ⟨fun clear fault => clear fault fault.mem_inOrder, fun clear fault _ => clear fault⟩

theorem check_eq_error_iff {fault : AuthFault} :
    properties.check = .error fault ↔ properties.FirstFault fault :=
  properties.reports_check.eq_error_iff

/-- A mail without a link and a caller without an id: the mail is looked at first. -/
example : check (φ := Nat)
    { email := some ⟨.link, none, some ⟨fun _ => "Open \x7b##\x7d"⟩⟩, phone := none
      federation := none, multifactor := none, emailSender := none
      smsSender := some (.sns none (some "caller") none), groups := [], suffix := "" } =
    .error .emailLinkMissing := by
  decide

/-- No other step of creation complains about the properties. -/
theorem create_eq_invalidProps_iff {stack after : Stack} {id message : String} :
    AuthConstruct.create stack id properties = (.error (.invalidProps message), after) ↔
      ∃ fault, properties.check = .error fault ∧ message = fault.message ∧ after = stack := by
  have creation := AuthConstruct.creation stack id properties
  constructor
  · intro refused
    cases checked : properties.check with
    | ok =>
        rcases creation.stopped checked _ _ refused with ⟨_, _, _, _, _, duplicate, _⟩
        cases duplicate
    | error fault =>
        rw [creation.inconsistent fault checked] at refused
        cases refused
        exact ⟨fault, rfl, rfl, rfl⟩
  · rintro ⟨fault, checked, rfl, rfl⟩
    exact creation.inconsistent fault checked

/-- The properties are accepted exactly if they keep clear of every fault. Otherwise the first fault
is reported, and creation is refused with its message and leaves the stack as it was. -/
theorem check_reports_first :
    (properties.check = .ok () ↔ ∀ fault, properties.Avoids fault) ∧
    (∀ fault, properties.check = .error fault ↔ properties.FirstFault fault) ∧
    (∀ stack id message after,
      AuthConstruct.create stack id properties = (.error (.invalidProps message), after) ↔
        ∃ fault, properties.FirstFault fault ∧ message = fault.message ∧ after = stack) := by
  refine ⟨properties.check_eq_ok_iff, fun fault => properties.check_eq_error_iff, ?_⟩
  intro stack id message after
  simp only [create_eq_invalidProps_iff, check_eq_error_iff]

end AuthProperties

end CloudSynth
