import CloudSynth.Proofs.Backend.LeastPrivilege

/-!
# The order in which resources are asked for

Two requests that succeed one after the other succeed the other way round, and then the backends
differ in nothing but the order of their functions (`Blueprint.exchange`): a request for a function
changes nothing that another request depends on, and of auth and data the auth resource is built
first in either order. So a list of requests may be reordered at will
(`Blueprint.exists_askAll_of_perm`), and a backend comes out the same whatever the order in which
its resources were added (`Blueprint.synthesize_perm`).
-/

namespace CloudSynth.Blueprint

variable {blueprint : Blueprint} {allowed : blueprint.Factory → Prop}

theorem Outside.of_paired {first second secondBefore : BackendContainer}
    (outsideFirst : blueprint.Outside first) (paired : Paired allowed first second)
    (outside : blueprint.Outside secondBefore) {α : Type} {program : blueprint.Build α}
    {outcome : Except BackendError α}
    (done : blueprint.catalogue.run program secondBefore = (outcome, second)) :
    blueprint.Outside second where
  resolving := (Catalogue.resolving_of_run blueprint.listed done).trans outside.resolving
  discoverable := by
    intro factory
    rw [outsideFirst.discoverable factory, provider, provider, paired.agrees.providers]

section Requests

variable {first second firstBetween firstAfter : BackendContainer} {one other : blueprint.Factory}
  {found : Instance}

theorem mirrors_request (compatible : Compatible allowed) (singletons : blueprint.HasSingletons)
    (paired : Paired allowed first second) (outsideFirst : blueprint.Outside first)
    (outsideSecond : blueprint.Outside second)
    (done : blueprint.catalogue.run (blueprint.instanceOf one) first = (.ok found, firstAfter))
    (within : Within allowed firstAfter) :
    found = blueprint.instanceFor one ∧
      ∃ secondAfter, blueprint.catalogue.run (blueprint.instanceOf one) second =
          (.ok found, secondAfter) ∧ Resolved allowed one first second firstAfter secondAfter := by
  have light : (¬ blueprint.IsHandler one → Stores first one) →
      found = blueprint.instanceFor one ∧
        ∃ secondAfter, blueprint.catalogue.run (blueprint.instanceOf one) second =
          (.ok found, secondAfter) ∧ Resolved allowed one first second firstAfter secondAfter := by
    intro light
    rcases paired.answers_light compatible light done within with
      ⟨same, secondAfter, answered, resolved, _⟩
    exact ⟨same, secondAfter, answered, resolved⟩
  by_cases handler : blueprint.IsHandler one
  · exact light fun notHandler => absurd handler notHandler
  · rcases kindOf_of_not_isHandler handler with auth | data
    · rcases mirrors_auth compatible singletons auth paired outsideFirst.discoverable
        (outsideFirst.idle _) (outsideSecond.idle _) done within with
          ⟨same, secondAfter, answered, resolved, _⟩
      exact ⟨same, secondAfter, answered, resolved⟩
    · rcases paired.left with ⟨_, holds, _⟩
      by_cases stored : Stores first one
      · exact light fun _ => stored
      · exact mirrors_data compatible singletons data paired outsideFirst outsideSecond
          (holds.lookup?_eq_none stored) done within

/-- A request for a function, or for what is there, may be made after another one instead. -/
theorem postpone (compatible : Compatible allowed) (singletons : blueprint.HasSingletons)
    (paired : Paired allowed first second) (outsideFirst : blueprint.Outside first)
    (outsideSecond : blueprint.Outside second)
    (light : ¬ blueprint.IsHandler one → Stores first one)
    (asked : blueprint.catalogue.run (blueprint.instanceOf one) first =
      (.ok found, firstBetween)) {foundOther : Instance}
    (askedOther : blueprint.catalogue.run (blueprint.instanceOf other) firstBetween =
      (.ok foundOther, firstAfter)) (within : Within allowed firstAfter) :
    ∃ secondBetween secondAfter,
      blueprint.catalogue.run (blueprint.instanceOf other) second =
        (.ok (blueprint.instanceFor other), secondBetween) ∧
      blueprint.catalogue.run (blueprint.instanceOf one) secondBetween =
        (.ok (blueprint.instanceFor one), secondAfter) ∧
      Tracks allowed first second firstAfter secondAfter := by
  have extended := Catalogue.extends_of_run blueprint.listed askedOther
  rcases paired.light_left light asked (within.of_extends extended) with ⟨rfl, obtains, pairedLeft⟩
  have outsideBetween := outsideFirst.of_run asked obtains.agrees.providers.symm
  rcases mirrors_request compatible singletons pairedLeft outsideBetween outsideSecond askedOther
    within with ⟨rfl, secondBetween, answered, resolved⟩
  have extendedSecond := Catalogue.extends_of_run blueprint.listed answered
  have lightSecond : (blueprint.IsHandler one ∧ allowed one) ∨ Stores secondBetween one := by
    by_cases handler : blueprint.IsHandler one
    · exact Or.inl ⟨handler, within one handler (extended _ _ obtains.stored)⟩
    · exact Or.inr (extendedSecond _ _ ((paired.others one handler).symm.trans (light handler)))
  rcases resolved.paired.light_right compatible lightSecond
    (blueprint.run_instanceOf_eq_ok.mp asked).1 with
      ⟨secondAfter, answeredOne, obtainsSecond, pairedAfter⟩
  refine ⟨secondBetween, secondAfter, answered, answeredOne, pairedAfter,
    resolved.providers.trans obtains.agrees.providers.symm, ?_⟩
  have extendedAfter := Catalogue.extends_of_run blueprint.listed answeredOne
  intro factory handler stored
  rcases resolved.covered factory handler stored with between | there
  · rcases obtains.only factory handler between with rfl | before
    · exact Or.inr obtainsSecond.stored
    · exact Or.inl before
  · exact Or.inr (extendedAfter _ _ there)

/-- A request for a function, or for what is there, may be made before another one instead. -/
theorem prepone (compatible : Compatible allowed) (singletons : blueprint.HasSingletons)
    (paired : Paired allowed first second) (outsideFirst : blueprint.Outside first)
    (outsideSecond : blueprint.Outside second)
    (light : ¬ blueprint.IsHandler other → Stores first other)
    (asked : blueprint.catalogue.run (blueprint.instanceOf one) first =
      (.ok found, firstBetween)) {foundOther : Instance}
    (askedOther : blueprint.catalogue.run (blueprint.instanceOf other) firstBetween =
      (.ok foundOther, firstAfter)) (within : Within allowed firstAfter) :
    ∃ secondBetween secondAfter,
      blueprint.catalogue.run (blueprint.instanceOf other) second =
        (.ok (blueprint.instanceFor other), secondBetween) ∧
      blueprint.catalogue.run (blueprint.instanceOf one) secondBetween =
        (.ok (blueprint.instanceFor one), secondAfter) ∧
      Tracks allowed first second firstAfter secondAfter := by
  have extended := Catalogue.extends_of_run blueprint.listed askedOther
  have extendedFirst := Catalogue.extends_of_run blueprint.listed asked
  have lightBetween : ¬ blueprint.IsHandler other → Stores firstBetween other :=
    fun notHandler => extendedFirst _ _ (light notHandler)
  have lightSecond : ∀ {after : BackendContainer}, Within allowed after → Stores after other →
      (blueprint.IsHandler other ∧ allowed other) ∨ Stores second other := by
    intro after withinAfter stored
    by_cases handler : blueprint.IsHandler other
    · exact Or.inl ⟨handler, withinAfter other handler stored⟩
    · exact Or.inr ((paired.others other handler).symm.trans (light handler))
  have storedAfter : Stores firstAfter other := by
    rcases mirrors_request compatible singletons paired outsideFirst outsideSecond asked
      (within.of_extends extended) with ⟨_, _, _, resolved⟩
    exact (resolved.paired.light_left lightBetween askedOther within).2.1.stored
  rcases paired.light_right compatible (lightSecond within storedAfter)
    (blueprint.run_instanceOf_eq_ok.mp askedOther).1 with
      ⟨secondBetween, answeredOther, obtainsSecond, pairedBetween⟩
  have outsideSecondBetween := outsideSecond.of_run answeredOther
    obtainsSecond.agrees.providers.symm
  rcases mirrors_request compatible singletons pairedBetween outsideFirst outsideSecondBetween asked
    (within.of_extends extended) with ⟨rfl, secondAfter, answered, resolved⟩
  rcases resolved.paired.light_left lightBetween askedOther within with ⟨rfl, obtains, pairedAfter⟩
  refine ⟨secondBetween, secondAfter, answeredOther, answered, pairedAfter,
    obtains.agrees.providers.symm.trans resolved.providers, ?_⟩
  have extendedSecond := Catalogue.extends_of_run blueprint.listed answered
  intro factory handler stored
  rcases obtains.only factory handler stored with rfl | between
  · exact Or.inr (extendedSecond _ _ obtainsSecond.stored)
  · exact resolved.covered factory handler between

end Requests

/-! ## Auth and data -/

section AuthAndData

variable {first second firstBetween firstAfter : BackendContainer}
  {auth data : blueprint.Factory} {found foundOther : Instance}

theorem run_providedAuth_of_auth {container after : BackendContainer}
    (isAuth : blueprint.kindOf auth = .auth)
    (discoverable : blueprint.Discoverable container.state) {provided : Option (Nat × BuiltAuth)} :
    blueprint.catalogue.run (blueprint.providedAuth authResourcesToken) container =
        (.ok provided, after) ↔
      ∃ found built, blueprint.catalogue.run (blueprint.instanceOf auth) container =
          (.ok found, after) ∧
        after.state.auths.find? found.factory = some built ∧
        provided = some (found.factory, built) := by
  have provider := (discoverable auth).mp isAuth
  rw [run_providedAuth_eq_ok, provider]
  simp

theorem complete_paired (compatible : Compatible allowed) (singletons : blueprint.HasSingletons)
    (isAuth : blueprint.kindOf auth = .auth) {settings : DataSettings Reference}
    {site : DefinitionSite} (defined : blueprint.definition data = .data settings site)
    (valid : blueprint.verdict (blueprint.definition data) = .ok ())
    {between betweenSecond inner : BackendContainer} {journal : Journal} {built : BuiltAuth}
    (cyclic : Cyclic between data) (stored : Stores between auth)
    (looked : between.state.auths.find? auth = some built)
    (completed : blueprint.catalogue.run
      (blueprint.completeData data settings (some (auth.val, built))) between =
        (.ok (blueprint.instanceFor data), inner)) (within : Within allowed inner)
    (absent : second.lookup? (blueprint.idOf data) = none) (outside : blueprint.Outside second)
    (checked : blueprint.catalogue.run (blueprint.checkDefinition (blueprint.definition data))
      second = (.ok (), withJournal second journal))
    (answered : blueprint.catalogue.run (blueprint.instanceOf auth) (opened second data journal) =
      (.ok (blueprint.instanceFor auth), betweenSecond))
    (paired : Paired allowed between betweenSecond) :
    ∃ innerSecond, blueprint.catalogue.run (blueprint.instanceOf data) second =
        (.ok (blueprint.instanceFor data), kept innerSecond data) ∧
      (kept innerSecond data).Extends betweenSecond ∧
      Resolved allowed data between betweenSecond (kept inner data) (kept innerSecond data) := by
  have discoverable : blueprint.Discoverable (opened second data journal).state :=
    outside.discoverable
  have provided := (run_providedAuth_of_auth isAuth discoverable).mpr
    ⟨_, built, answered, by rw [← paired.agrees.auths]; exact looked, rfl⟩
  have everyStored : ∀ other, blueprint.kindOf other = .auth → Stores between other := by
    intro other otherAuth
    rw [singletons.auth other auth otherAuth isAuth]
    exact stored
  have cyclicSecond := (cyclic_opened absent journal).of_run answered
  rcases mirrors_rest compatible singletons defined paired cyclic cyclicSecond everyStored completed
    within with ⟨innerSecond, completedSecond, rest⟩
  refine ⟨innerSecond, ?_, (extends_kept innerSecond data).trans
    (Catalogue.extends_of_run blueprint.listed completedSecond), rest⟩
  rw [run_data_eq_ok defined absent (outside.idle _)]
  exact ⟨valid, rfl, journal, _, betweenSecond, innerSecond, checked, provided, completedSecond,
    rfl⟩

/-- The auth resource that was asked for by itself might as well have been built for data. -/
theorem exchange_auth_data (compatible : Compatible allowed)
    (singletons : blueprint.HasSingletons) (isAuth : blueprint.kindOf auth = .auth)
    (isData : blueprint.kindOf data = .data) (paired : Paired allowed first second)
    (outsideFirst : blueprint.Outside first) (outsideSecond : blueprint.Outside second)
    (absent : first.lookup? (blueprint.idOf data) = none)
    (asked : blueprint.catalogue.run (blueprint.instanceOf auth) first =
      (.ok found, firstBetween))
    (askedData : blueprint.catalogue.run (blueprint.instanceOf data) firstBetween =
      (.ok foundOther, firstAfter)) (within : Within allowed firstAfter) :
    ∃ secondBetween secondAfter,
      blueprint.catalogue.run (blueprint.instanceOf data) second =
        (.ok (blueprint.instanceFor data), secondBetween) ∧
      blueprint.catalogue.run (blueprint.instanceOf auth) secondBetween =
        (.ok (blueprint.instanceFor auth), secondAfter) ∧
      Tracks allowed first second firstAfter secondAfter := by
  have notHandler := not_isHandler_of_data isData
  have validAuth := (blueprint.run_instanceOf_eq_ok.mp asked).1
  have validData := (blueprint.run_instanceOf_eq_ok.mp askedData).1
  have withinBetween :=
    within.of_extends (Catalogue.extends_of_run blueprint.listed askedData)
  have absentSecond : second.lookup? (blueprint.idOf data) = none :=
    (paired.others data notHandler).symm.trans absent
  rcases exists_data isData with ⟨settings, site, defined⟩
  rcases blueprint.run_checkDefinition (blueprint.definition data) second with
    ⟨journalSecond, checked⟩
  rw [validData] at checked
  -- On the second side auth is built for data, on the first side it is there when data asks.
  have idleOpened :
      (opened second data journalSecond).isResolving (blueprint.idOf auth) = false := by
    rw [isResolving_opened_of_ne (auth_ne_data isData isAuth)]
    exact outsideSecond.idle _
  rcases mirrors_auth compatible singletons isAuth
    (paired.symm.opened_left notHandler journalSecond).symm outsideFirst.discoverable
    (outsideFirst.idle _) idleOpened asked withinBetween with
      ⟨rfl, betweenSecond, answeredAuth, resolved, dataKept⟩
  have outsideBetween := outsideFirst.of_run asked resolved.providers
  have absentBetween := (dataKept data isData).trans absent
  rw [run_data_eq_ok defined absentBetween (outsideBetween.idle _)] at askedData
  rcases askedData with ⟨_, rfl, journal, provided, between, inner, _, providing, completed, rfl⟩
  have discoverable : blueprint.Discoverable (opened firstBetween data journal).state :=
    outsideBetween.discoverable
  rw [run_providedAuth_of_auth isAuth discoverable] at providing
  rcases providing with ⟨again, built, askedAgain, looked, rfl⟩
  have withinInner := within.of_kept
  have extended := Catalogue.extends_of_run blueprint.listed completed
  rcases (resolved.paired.opened_left notHandler journal).light_left (fun _ => resolved.stored)
    askedAgain (withinInner.of_extends extended) with ⟨rfl, obtains, pairedBetween⟩
  rcases complete_paired compatible singletons isAuth defined validData
    ((cyclic_opened absentBetween journal).of_run askedAgain) obtains.stored looked completed
    withinInner absentSecond outsideSecond checked answeredAuth pairedBetween with
      ⟨innerSecond, answeredData, extendedSecond, rest⟩
  have storedSecond : Stores (kept innerSecond data) auth := extendedSecond _ _
    ((pairedBetween.others auth (not_isHandler_of_auth isAuth)).symm.trans obtains.stored)
  rcases rest.paired.light_right compatible (Or.inr storedSecond) validAuth with
    ⟨secondAfter, answeredAgain, _, pairedAfter⟩
  refine ⟨kept innerSecond data, secondAfter, answeredData, answeredAgain, pairedAfter,
    (rest.providers.trans obtains.agrees.providers.symm).trans resolved.providers, ?_⟩
  have extendedAfter := Catalogue.extends_of_run blueprint.listed answeredAgain
  intro factory handler there
  rcases rest.covered factory handler there with earlier | later
  · rcases obtains.only factory handler earlier with rfl | before
    · exact absurd handler (not_isHandler_of_auth isAuth)
    · rcases resolved.covered factory handler before with atFirst | onSecond
      · exact Or.inl atFirst
      · exact Or.inr (extendedAfter _ _ (extendedSecond _ _ onSecond))
  · exact Or.inr (extendedAfter _ _ later)

/-- The auth resource that was built for data might as well have been asked for by itself. -/
theorem exchange_data_auth (compatible : Compatible allowed)
    (singletons : blueprint.HasSingletons) (isAuth : blueprint.kindOf auth = .auth)
    (isData : blueprint.kindOf data = .data) (paired : Paired allowed first second)
    (outsideFirst : blueprint.Outside first) (outsideSecond : blueprint.Outside second)
    (absent : first.lookup? (blueprint.idOf data) = none)
    (asked : blueprint.catalogue.run (blueprint.instanceOf data) first =
      (.ok found, firstBetween))
    (askedAuth : blueprint.catalogue.run (blueprint.instanceOf auth) firstBetween =
      (.ok foundOther, firstAfter)) (within : Within allowed firstAfter) :
    ∃ secondBetween secondAfter,
      blueprint.catalogue.run (blueprint.instanceOf auth) second =
        (.ok (blueprint.instanceFor auth), secondBetween) ∧
      blueprint.catalogue.run (blueprint.instanceOf data) secondBetween =
        (.ok (blueprint.instanceFor data), secondAfter) ∧
      Tracks allowed first second firstAfter secondAfter := by
  have notHandler := not_isHandler_of_data isData
  have validAuth := (blueprint.run_instanceOf_eq_ok.mp askedAuth).1
  have validData := (blueprint.run_instanceOf_eq_ok.mp asked).1
  rcases exists_data isData with ⟨settings, site, defined⟩
  rw [run_data_eq_ok defined absent (outsideFirst.idle _)] at asked
  rcases asked with ⟨_, rfl, journal, provided, between, inner, _, providing, completed, rfl⟩
  have discoverable : blueprint.Discoverable (opened first data journal).state :=
    outsideFirst.discoverable
  rw [run_providedAuth_of_auth isAuth discoverable] at providing
  rcases providing with ⟨again, built, askedFirst, looked, rfl⟩
  have withinInner := (within.of_extends
    (Catalogue.extends_of_run blueprint.listed askedAuth)).of_kept
  have extended := Catalogue.extends_of_run blueprint.listed completed
  have idleOpened : (opened first data journal).isResolving (blueprint.idOf auth) = false := by
    rw [isResolving_opened_of_ne (auth_ne_data isData isAuth)]
    exact outsideFirst.idle _
  -- On the first side auth is built for data, on the second side it is there when data asks.
  rcases mirrors_auth compatible singletons isAuth (paired.opened_left notHandler journal)
    discoverable idleOpened (outsideSecond.idle _) askedFirst (withinInner.of_extends extended) with
      ⟨rfl, secondBetween, answeredAuth, resolved, dataKept⟩
  have storedSecond : Stores secondBetween auth :=
    (resolved.paired.others auth (not_isHandler_of_auth isAuth)).symm.trans resolved.stored
  have absentSecond : secondBetween.lookup? (blueprint.idOf data) = none :=
    (resolved.paired.others data notHandler).symm.trans ((dataKept data isData).trans absent)
  have outsideBetween : blueprint.Outside secondBetween := by
    apply outsideSecond.of_run answeredAuth
    rw [← resolved.paired.agrees.providers, resolved.providers, ← paired.agrees.providers]
    rfl
  rcases blueprint.run_checkDefinition (blueprint.definition data) secondBetween with
    ⟨journalSecond, checked⟩
  rw [validData] at checked
  rcases (resolved.paired.symm.opened_left notHandler journalSecond).symm.light_right compatible
    (Or.inr storedSecond) validAuth with ⟨betweenSecond, answeredAgain, _, pairedBetween⟩
  rcases complete_paired compatible singletons isAuth defined validData
    ((cyclic_opened absent journal).of_run askedFirst) resolved.stored looked completed withinInner
    absentSecond outsideBetween checked answeredAgain pairedBetween with
      ⟨innerSecond, answeredData, extendedSecond, rest⟩
  have storedKept : Stores (kept inner data) auth :=
    extends_kept inner data _ _ (extended _ _ resolved.stored)
  rcases rest.paired.light_left (fun _ => storedKept) askedAuth within with
    ⟨rfl, obtains, pairedAfter⟩
  refine ⟨secondBetween, kept innerSecond data, answeredAuth, answeredData, pairedAfter,
    (obtains.agrees.providers.symm.trans rest.providers).trans resolved.providers, ?_⟩
  have extendedAgain := Catalogue.extends_of_run blueprint.listed answeredAgain
  intro factory handler there
  rcases obtains.only factory handler there with rfl | before
  · exact absurd handler (not_isHandler_of_auth isAuth)
  · rcases rest.covered factory handler before with earlier | later
    · rcases resolved.covered factory handler earlier with atFirst | onSecond
      · exact Or.inl atFirst
      · exact Or.inr (extendedSecond _ _ (extendedAgain _ _ onSecond))
    · exact Or.inr later

end AuthAndData

/-! ## Any two requests -/

section Exchange

variable {first second firstBetween firstAfter : BackendContainer} {one other : blueprint.Factory}
  {found foundOther : Instance}

/-- Two requests that succeed one after the other succeed the other way round. -/
theorem exchange (compatible : Compatible allowed) (singletons : blueprint.HasSingletons)
    (paired : Paired allowed first second) (outsideFirst : blueprint.Outside first)
    (outsideSecond : blueprint.Outside second)
    (asked : blueprint.catalogue.run (blueprint.instanceOf one) first =
      (.ok found, firstBetween))
    (askedOther : blueprint.catalogue.run (blueprint.instanceOf other) firstBetween =
      (.ok foundOther, firstAfter)) (within : Within allowed firstAfter) :
    ∃ secondBetween secondAfter,
      blueprint.catalogue.run (blueprint.instanceOf other) second =
        (.ok (blueprint.instanceFor other), secondBetween) ∧
      blueprint.catalogue.run (blueprint.instanceOf one) secondBetween =
        (.ok (blueprint.instanceFor one), secondAfter) ∧
      Tracks allowed first second firstAfter secondAfter := by
  by_cases light : ¬ blueprint.IsHandler one → Stores first one
  · exact postpone compatible singletons paired outsideFirst outsideSecond light asked askedOther
      within
  by_cases lightOther : ¬ blueprint.IsHandler other → Stores first other
  · exact prepone compatible singletons paired outsideFirst outsideSecond lightOther asked
      askedOther
      within
  rcases Classical.not_imp.mp light with ⟨notHandler, missing⟩
  rcases Classical.not_imp.mp lightOther with ⟨otherNotHandler, otherMissing⟩
  rcases paired.left with ⟨_, holds, _⟩
  have again (same : other = one) : ∃ secondBetween secondAfter,
      blueprint.catalogue.run (blueprint.instanceOf other) second =
        (.ok (blueprint.instanceFor other), secondBetween) ∧
      blueprint.catalogue.run (blueprint.instanceOf one) secondBetween =
        (.ok (blueprint.instanceFor one), secondAfter) ∧
      Tracks allowed first second firstAfter secondAfter := by
    subst same
    have extended := Catalogue.extends_of_run blueprint.listed askedOther
    rcases mirrors_request compatible singletons paired outsideFirst outsideSecond asked
      (within.of_extends extended) with ⟨rfl, secondBetween, answered, resolved⟩
    have outsideBetween := outsideFirst.of_run asked resolved.providers
    have outsideSecondBetween := outsideBetween.of_paired resolved.paired outsideSecond answered
    rcases mirrors_request compatible singletons resolved.paired outsideBetween outsideSecondBetween
      askedOther within with ⟨rfl, secondAfter, answeredAgain, later⟩
    exact ⟨secondBetween, secondAfter, answered, answeredAgain,
      resolved.toTracks.trans later.toTracks
        (Catalogue.extends_of_run blueprint.listed answeredAgain)⟩
  rcases kindOf_of_not_isHandler notHandler with isAuth | isData
  · rcases kindOf_of_not_isHandler otherNotHandler with otherAuth | otherData
    · exact again (singletons.auth other one otherAuth isAuth)
    · exact exchange_auth_data compatible singletons isAuth otherData paired outsideFirst
        outsideSecond (holds.lookup?_eq_none otherMissing) asked askedOther within
  · rcases kindOf_of_not_isHandler otherNotHandler with otherAuth | otherData
    · exact exchange_data_auth compatible singletons otherAuth isData paired outsideFirst
        outsideSecond (holds.lookup?_eq_none missing) asked askedOther within
    · exact again (singletons.data other one otherData isData)

end Exchange

/-! ## Lists of requests -/

theorem Tracks.refl {first second : BackendContainer} (paired : Paired allowed first second) :
    Tracks allowed first second first second :=
  ⟨paired, rfl, fun _ _ => Or.inl⟩

theorem mirrors_askAll (compatible : Compatible allowed) (singletons : blueprint.HasSingletons)
    (factories : List blueprint.Factory) {first second firstAfter : BackendContainer}
    (paired : Paired allowed first second) (outsideFirst : blueprint.Outside first)
    (outsideSecond : blueprint.Outside second)
    (done : blueprint.catalogue.run (blueprint.askAll factories) first = (.ok (), firstAfter))
    (within : Within allowed firstAfter) :
    ∃ secondAfter, blueprint.catalogue.run (blueprint.askAll factories) second =
        (.ok (), secondAfter) ∧ Tracks allowed first second firstAfter secondAfter := by
  induction factories generalizing first second with
  | nil =>
      cases done
      exact ⟨second, rfl, .refl paired⟩
  | cons factory rest ih =>
      rw [run_askAll_cons_eq_ok] at done
      rcases done with ⟨found, between, asked, continued⟩
      have extended := Catalogue.extends_of_run blueprint.listed continued
      rcases mirrors_request compatible singletons paired outsideFirst outsideSecond asked
        (within.of_extends extended) with ⟨rfl, secondBetween, answered, resolved⟩
      have outsideBetween := outsideFirst.of_run asked resolved.providers
      rcases ih resolved.paired outsideBetween
        (outsideBetween.of_paired resolved.paired outsideSecond answered) continued with
          ⟨secondAfter, answeredRest, tracks⟩
      refine ⟨secondAfter, ?_, resolved.toTracks.trans tracks
        (Catalogue.extends_of_run blueprint.listed answeredRest)⟩
      rw [run_askAll_cons_eq_ok]
      exact ⟨_, secondBetween, answered, answeredRest⟩

/-- Requests that succeed in one order succeed in every order. -/
theorem exists_askAll_of_perm (compatible : Compatible allowed)
    (singletons : blueprint.HasSingletons) {factories others : List blueprint.Factory}
    (reordered : factories.Perm others) {first second firstAfter : BackendContainer}
    (paired : Paired allowed first second) (outsideFirst : blueprint.Outside first)
    (outsideSecond : blueprint.Outside second)
    (done : blueprint.catalogue.run (blueprint.askAll factories) first = (.ok (), firstAfter))
    (within : Within allowed firstAfter) :
    ∃ secondAfter, blueprint.catalogue.run (blueprint.askAll others) second =
        (.ok (), secondAfter) ∧ Tracks allowed first second firstAfter secondAfter := by
  induction reordered generalizing first second firstAfter with
  | nil =>
      exact mirrors_askAll compatible singletons [] paired outsideFirst outsideSecond done within
  | cons factory _ ih =>
      rw [run_askAll_cons_eq_ok] at done
      rcases done with ⟨found, between, asked, continued⟩
      have extended := Catalogue.extends_of_run blueprint.listed continued
      rcases mirrors_request compatible singletons paired outsideFirst outsideSecond asked
        (within.of_extends extended) with ⟨rfl, secondBetween, answered, resolved⟩
      have outsideBetween := outsideFirst.of_run asked resolved.providers
      rcases ih resolved.paired outsideBetween
        (outsideBetween.of_paired resolved.paired outsideSecond answered) continued within with
          ⟨secondAfter, answeredRest, tracks⟩
      refine ⟨secondAfter, ?_, resolved.toTracks.trans tracks
        (Catalogue.extends_of_run blueprint.listed answeredRest)⟩
      rw [run_askAll_cons_eq_ok]
      exact ⟨_, secondBetween, answered, answeredRest⟩
  | swap other one rest =>
      simp only [run_askAll_cons_eq_ok] at done
      rcases done with ⟨found, firstBetween, asked, foundOther, firstThen, askedOther, continued⟩
      have extended := Catalogue.extends_of_run blueprint.listed continued
      rcases exchange compatible singletons paired outsideFirst outsideSecond asked askedOther
        (within.of_extends extended) with
          ⟨secondBetween, secondThen, answeredOther, answered, tracks⟩
      have outsideThen : blueprint.Outside firstThen := by
        constructor
        · rw [Catalogue.resolving_of_run blueprint.listed askedOther,
            Catalogue.resolving_of_run blueprint.listed asked, outsideFirst.resolving]
        · intro factory
          rw [outsideFirst.discoverable factory, provider, provider, tracks.providers]
      have outsideSecondThen : blueprint.Outside secondThen := by
        constructor
        · rw [Catalogue.resolving_of_run blueprint.listed answered,
            Catalogue.resolving_of_run blueprint.listed answeredOther, outsideSecond.resolving]
        · intro factory
          rw [outsideThen.discoverable factory, provider, provider, tracks.paired.agrees.providers]
      rcases mirrors_askAll compatible singletons rest tracks.paired outsideThen outsideSecondThen
        continued within with ⟨secondAfter, answeredRest, later⟩
      refine ⟨secondAfter, ?_, tracks.trans later
        (Catalogue.extends_of_run blueprint.listed answeredRest)⟩
      simp only [run_askAll_cons_eq_ok]
      exact ⟨_, secondBetween, answeredOther, _, secondThen, answered, answeredRest⟩
  | trans _ _ ih ihLater =>
      -- The intermediate order is tried out on the first side.
      rcases paired.left with ⟨_, holds, allowedFirst⟩
      rcases ih (holds.paired_self (holds.within.mpr allowedFirst)) outsideFirst outsideFirst done
        within with ⟨middle, doneMiddle, tracks⟩
      rcases tracks.paired.right with ⟨_, holdsMiddle, allowedMiddle⟩
      rcases ihLater paired outsideFirst outsideSecond doneMiddle
        (holdsMiddle.within.mpr allowedMiddle) with ⟨secondAfter, answered, later⟩
      refine ⟨secondAfter, answered, tracks.paired.trans later.paired, tracks.providers, ?_⟩
      intro factory handler stored
      rcases tracks.covered factory handler stored with before | between
      · exact Or.inl before
      · exact later.covered factory handler between

/-! ## The order of the resources -/

/-- The backends have built the same. Their functions are the same as well, with their variables,
tags and policies, but may have been built in another order. -/
structure SameBackend (first second : Assembly) : Prop where
  authOutput : first.outputs.find? authOutputKey = second.outputs.find? authOutputKey
  graphqlOutput : first.outputs.find? graphqlOutputKey = second.outputs.find? graphqlOutputKey
  authStack : first.stackSet.stackFor ResourceKind.auth.group =
    second.stackSet.stackFor ResourceKind.auth.group
  dataStack : first.stackSet.stackFor ResourceKind.data.group =
    second.stackSet.stackFor ResourceKind.data.group
  functions : ∀ number, first.functions.find? number = second.functions.find? number
  auths : first.auths = second.auths
  datas : first.datas = second.datas
  parameters : first.parameters = second.parameters
  functionStack : (first.stackSet.stackFor ResourceKind.function.group).resources.Perm
    (second.stackSet.stackFor ResourceKind.function.group).resources
  definedFunctions : (first.outputs.list functionOutputKey definedFunctionsField).Perm
    (second.outputs.list functionOutputKey definedFunctionsField)

theorem sameBackend_of_agrees {first second : BackendContainer}
    {built others : List blueprint.Factory} (holds : blueprint.Built first built)
    (holdsSecond : blueprint.Built second others) (reordered : built.Perm others)
    (agrees : blueprint.Agrees first.state second.state) :
    SameBackend first.state second.state where
  authOutput := agrees.outputs _ (by decide)
  graphqlOutput := agrees.outputs _ (by decide)
  authStack := agrees.stackFor _ (by decide)
  dataStack := agrees.stackFor _ (by decide)
  functions := by
    intro number
    by_cases key : number ∈ first.state.functions.keys
    · have keySecond : number ∈ second.state.functions.keys := by
        rw [holdsSecond.keys]
        rw [holds.keys] at key
        exact (reordered.map Fin.val).mem_iff.mp key
      rw [holds.keys, List.mem_map] at key
      rcases key with ⟨factory, factory_mem, rfl⟩
      rw [← OrderedMap.find?_isSome_iff, Option.isSome_iff_exists] at keySecond
      rcases keySecond with ⟨other, storedSecond⟩
      have stored := holds.mem_keys_iff.mpr factory_mem
      rw [← OrderedMap.find?_isSome_iff, Option.isSome_iff_exists] at stored
      rcases stored with ⟨function, stored⟩
      have same := agrees.functions factory
      rw [functionIn_of_find? stored, functionIn_of_find? storedSecond] at same
      rw [stored, storedSecond, same]
    · have absent : number ∉ second.state.functions.keys := by
        rw [holdsSecond.keys]
        rw [holds.keys] at key
        intro there
        exact key ((reordered.map Fin.val).mem_iff.mpr there)
      rw [OrderedMap.find?_eq_none key, OrderedMap.find?_eq_none absent]
  auths := agrees.auths
  datas := agrees.datas
  parameters := agrees.parameters
  functionStack := by
    rw [holds.stack, holdsSecond.stack]
    exact reordered.flatMap_right _
  definedFunctions := by
    rw [holds.listed, holdsSecond.listed]
    exact reordered.filterMap _

theorem sameBackend_of_synthesize {journal : Journal}
    {resources others : List (String × blueprint.Factory)} (singletons : blueprint.HasSingletons)
    (added : ∀ factory, blueprint.kindOf factory = .auth → factory ∈ resources.map (·.2))
    (distinct : (resources.map (·.1)).Nodup) (reordered : resources.Perm others)
    (succeeds : ((Backend.holding blueprint journal resources).synthesize blueprint).1 = .ok ()) :
    ((Backend.holding blueprint journal others).synthesize blueprint).1 = .ok () ∧
      SameBackend
        ((Backend.holding blueprint journal resources).synthesize blueprint).2.assembly
        ((Backend.holding blueprint journal others).synthesize blueprint).2.assembly := by
  have distinctOthers : (others.map (·.1)).Nodup := (reordered.map (·.1)).nodup_iff.mp distinct
  have factories := reordered.map (·.2)
  have outside : blueprint.Outside (Backend.holding blueprint journal resources).container :=
    outside_holding singletons added
  rw [synthesize_holding distinct] at succeeds ⊢
  rw [synthesize_holding distinctOthers]
  simp only [Backend.run, Backend.assembly] at succeeds ⊢
  rw [← container_holding_congr singletons fun _ => factories.mem_iff]
  rcases ran : blueprint.catalogue.run (blueprint.askAll (resources.map (·.2)))
    (Backend.holding blueprint journal resources).container with ⟨outcome, after⟩
  rw [ran] at succeeds ⊢
  cases succeeds
  rcases (leastPrivilege_holding.of_askAll singletons outside ran).1.built with ⟨built, holds⟩
  -- The functions built in the first order are those that may be built in the second.
  have compatible := holds.compatible
  have within : Within (fun factory => factory ∈ built) after :=
    holds.within.mpr fun _ factory_mem => factory_mem
  have paired : Paired (fun factory => factory ∈ built)
      (Backend.holding blueprint journal resources).container
      (Backend.holding blueprint journal resources).container :=
    built_holding.paired_self (built_holding.within.mpr fun _ none => absurd none List.not_mem_nil)
  rcases exists_askAll_of_perm compatible singletons factories paired outside outside ran
    within with ⟨afterOthers, ranOthers, tracks⟩
  rcases tracks.paired.right with ⟨builtOthers, holdsOthers, included⟩
  rw [ranOthers]
  refine ⟨rfl, sameBackend_of_agrees holds holdsOthers ?_ tracks.paired.agrees⟩
  rw [List.perm_ext_iff_of_nodup holds.nodup holdsOthers.nodup]
  intro factory
  constructor
  · intro factory_mem
    have handler := holds.handlers factory factory_mem
    rcases tracks.covered factory handler ((holds.stored factory handler).mp factory_mem) with
      before | there
    · rw [Stores, lookup?_holding] at before
      cases before
    · exact (holdsOthers.stored factory handler).mpr there
  · exact included factory

/-- The order in which resources are added to a backend makes no difference to whether its synthesis
succeeds, and none to what has been built then but the order of the functions. -/
theorem synthesize_perm {journal : Journal} {resources others : List (String × blueprint.Factory)}
    (singletons : blueprint.HasSingletons)
    (added : ∀ factory, blueprint.kindOf factory = .auth → factory ∈ resources.map (·.2))
    (distinct : (resources.map (·.1)).Nodup) (reordered : resources.Perm others) :
    (((Backend.holding blueprint journal resources).synthesize blueprint).1 = .ok () ↔
      ((Backend.holding blueprint journal others).synthesize blueprint).1 = .ok ()) ∧
    (((Backend.holding blueprint journal resources).synthesize blueprint).1 = .ok () →
      SameBackend
        ((Backend.holding blueprint journal resources).synthesize blueprint).2.assembly
        ((Backend.holding blueprint journal others).synthesize blueprint).2.assembly) := by
  have addedOthers : ∀ factory, blueprint.kindOf factory = .auth → factory ∈ others.map (·.2) :=
    fun factory isAuth => (reordered.map (·.2)).mem_iff.mp (added factory isAuth)
  have distinctOthers : (others.map (·.1)).Nodup := (reordered.map (·.1)).nodup_iff.mp distinct
  refine ⟨⟨fun succeeds => ?_, fun succeeds => ?_⟩, fun succeeds => ?_⟩
  · exact (sameBackend_of_synthesize singletons added distinct reordered succeeds).1
  · exact (sameBackend_of_synthesize singletons addedOthers distinctOthers reordered.symm
      succeeds).1
  · exact (sameBackend_of_synthesize singletons added distinct reordered succeeds).2

/-- Both orders succeed, with the same backend. -/
theorem sharing_perm :
    sharing.HasSingletons ∧
      (∀ factory, sharing.kindOf factory = .auth → factory ∈ sharingResources.map (·.2)) ∧
      (sharingResources.map (·.1)).Nodup ∧ sharingResources.Perm sharingResources.reverse ∧
      ((Backend.holding sharing .empty sharingResources).synthesize sharing).1 = .ok () ∧
      ((Backend.holding sharing .empty sharingResources.reverse).synthesize sharing).1 = .ok () ∧
      SameBackend
        ((Backend.holding sharing .empty sharingResources).synthesize sharing).2.assembly
        ((Backend.holding sharing .empty sharingResources.reverse).synthesize
          sharing).2.assembly := by
  have reordered : sharingResources.Perm sharingResources.reverse := by decide
  rcases @synthesize_perm sharing .empty _ _ sharing_hasSingletons (by decide) (by decide)
    reordered with ⟨succeeds_iff, same⟩
  exact ⟨sharing_hasSingletons, by decide, by decide, reordered, sharing_synthesizes,
    succeeds_iff.mp sharing_synthesizes, same sharing_synthesizes⟩

end CloudSynth.Blueprint
