/-
**What was resolved before matters little.**

Two registries with the same overrides, of which one has settled all that the other has, are
compared request by request.

* `Sound.same_label`: an id settled in both has the same name, or the same text if it has none.
* `Follows`: what the later registry may answer, by what the earlier one does.
* `Resolves.follows`: the later registry answers no worse, except that it may reach a range over a
  type without a name which the depth limit hid.
* `history_independent`: the same for a registry with overrides only, and any sequence of requests
  to it.
-/

import CatalogSchema.Proofs.Resolution.Prescription

namespace CatalogSchema

open Relation

variable {setting : Setting}

/-! ### Names and texts -/

/-- Two types that are named alike and written alike. -/
structure SameLabel (first second : SchemaType) : Prop where
  name : first.name? = second.name?
  text : first.text = second.text

theorem SameLabel.refl (type : SchemaType) : SameLabel type type := ⟨rfl, rfl⟩

theorem SameLabel.ofName {first second : SchemaType} {name : String}
    (named : first.name? = some name) (named' : second.name? = some name) :
    SameLabel first second := by
  have text : ∀ {type : SchemaType}, type.name? = some name → type.text = name := by
    intro type named
    cases type <;> cases named <;> rfl
  exact ⟨named.trans named'.symm, (text named).trans (text named').symm⟩

theorem SameLabel.list {first second : SchemaType} (same : SameLabel first second)
    (serial other : Nat) : SameLabel (.list serial first) (.list other second) := by
  refine ⟨rfl, ?_⟩
  unfold SchemaType.text
  rw [same.text]

/-- A type without a name is not renamed. -/
theorem SchemaType.renamed_of_unnamed {type : SchemaType} (unnamed : type.name? = none)
    (serial : Nat) (name : String) (description : Option String) :
    type.renamed serial name description = type := by
  cases type <;> first | rfl | cases unnamed

theorem SchemaType.name?_renamed {type : SchemaType} {old : String} (named : type.name? = some old)
    (serial : Nat) (name : String) (description : Option String) :
    (type.renamed serial name description).name? = some name := by
  cases type <;> first | rfl | cases named

theorem SameLabel.renamed {first second : SchemaType} (same : SameLabel first second)
    (serial other : Nat) (name : String) (description : Option String) :
    SameLabel (first.renamed serial name description) (second.renamed other name description) := by
  cases named : first.name? with
  | none =>
    have unnamed : second.name? = none := by rw [← same.name, named]
    rw [SchemaType.renamed_of_unnamed named, SchemaType.renamed_of_unnamed unnamed]
    exact same
  | some old =>
    have named' : second.name? = some old := by rw [← same.name, named]
    exact .ofName (SchemaType.name?_renamed named _ _ _) (SchemaType.name?_renamed named' _ _ _)

theorem StandsAlone.same_label {descriptor : Descriptor} {first second : TypeEntry}
    {codec other : Option SharedCodec} (stands : StandsAlone setting descriptor first codec)
    (stands' : StandsAlone setting descriptor second other) :
    SameLabel first.output second.output := by
  cases stands with
  | enumeration _ kind _ =>
    cases stands' with
    | enumeration _ _ _ => exact .ofName rfl rfl
    | scalar _ other => exact absurd kind other
  | scalar _ kind =>
    cases stands' with
    | enumeration _ other _ => exact absurd other kind
    | scalar _ _ => exact .refl _

/-- An enumeration that stands has members. -/
theorem StandsAlone.members {descriptor : Descriptor} {entry : TypeEntry}
    {codec : Option SharedCodec} (stands : StandsAlone setting descriptor entry codec)
    (kind : descriptor.kind = .enumeration) :
    ∃ members, enumMembers setting.naming descriptor.displayName (descriptor.labels.getD []) =
      .ok members := by
  cases stands with
  | enumeration _ _ named => exact ⟨_, named⟩
  | scalar _ other => exact absurd kind other

/-- Types completed over children with the same label. The objects of ranges are named after the
child. -/
theorem Completed.same_label {less more : Registry} (soundLess : Sound setting less)
    (soundMore : Sound setting more) {descriptor : Descriptor} {role : ChildRole} {childId : TypeId}
    {child child' entry entry' : TypeEntry} {shared shared' : SharedCodec}
    (same : SameLabel child.output child'.output)
    (completed : Completed setting less descriptor role childId child entry shared)
    (completed' : Completed setting more descriptor role childId child' entry' shared') :
    SameLabel entry.output entry'.output := by
  cases completed with
  | array serial _ _ _ =>
    cases completed' with
    | array other _ _ _ => exact same.list serial other
  | domain serial _ _ _ _ _ =>
    cases completed' with
    | domain other _ _ _ _ _ => exact same.renamed serial other _ _
  | range _ _ name shaped =>
    cases completed' with
    | range _ _ name' shaped' =>
      obtain ⟨_, _, _, -, -, fits⟩ := soundLess.shapes shaped
      obtain ⟨_, _, _, -, -, fits'⟩ := soundMore.shapes shaped'
      rw [← same.name, name] at name'
      obtain rfl := Option.some.inj name'
      exact .ofName fits.name fits'.name

/-- **An id settled in two sound registries with the same overrides has the same label in both.** -/
theorem Sound.same_label {less more : Registry} (soundLess : Sound setting less)
    (soundMore : Sound setting more) (overrides : more.overrides = less.overrides) {id : TypeId}
    {entry entry' : TypeEntry} (settled : less.types.find? id = some entry)
    (settled' : more.types.find? id = some entry') : SameLabel entry.output entry'.output := by
  induction soundLess.grounded settled generalizing entry entry' with
  | intro id _ ih =>
    obtain ⟨descriptor, known, -⟩ := soundLess.built settled
    cases plain : less.overrides.find? id with
    | some mapping =>
      obtain ⟨rfl, -⟩ := soundLess.settled_overridden settled plain
      obtain ⟨rfl, -⟩ := soundMore.settled_overridden settled' (by rw [overrides, plain])
      exact .refl _
    | none =>
      have plain' : more.overrides.find? id = none := by rw [overrides, plain]
      cases rests : descriptor.builtOver with
      | none =>
        exact (soundLess.settled_alone settled known plain rests).same_label
          (soundMore.settled_alone settled' known plain' rests)
      | some role =>
        obtain ⟨_, childId, child, _, admitted, settledChild, -, completed⟩ :=
          soundLess.settled_over settled known plain rests
        have found := Resolve.child?_of_askChild admitted
        obtain ⟨child', _, settledChild', completed'⟩ :=
          soundMore.settled_overChild settled' known plain' rests found
        have same := ih childId ⟨plain, descriptor, role, known, rests, found⟩
          settledChild settledChild'
        exact completed.same_label soundLess soundMore same completed'

/-! ### Depth errors -/

/-- Naming the descriptor at fault does not change whether an error is one of depth. -/
theorem BuildError.isRecursionLimit_resolving (descriptor : Descriptor) (error : BuildError) :
    (error.resolving descriptor).isRecursionLimit = error.isRecursionLimit := by
  cases error <;> rfl

namespace Resolve

/-- A chain of domains ends in one way, or is too long for fewer levels. -/
theorem domainBottom_of_ok {remaining : Nat} {descriptor bottom : Descriptor}
    (walked : domainBottom setting remaining descriptor = .ok bottom) (other : Nat) :
    domainBottom setting other descriptor = .ok bottom ∨
      other < remaining ∧
        ∃ error : BuildError, domainBottom setting other descriptor = .error error ∧
        error.isRecursionLimit = true := by
  induction remaining generalizing other descriptor with
  | zero =>
    unfold domainBottom at walked ⊢
    by_cases domain : descriptor.kind = .domain
    · rw [if_pos domain] at walked
      cases walked
    · rw [if_neg domain] at walked ⊢
      exact .inl walked
  | succ remaining ih =>
    unfold domainBottom at walked ⊢
    by_cases domain : descriptor.kind = .domain
    · rw [if_pos domain] at walked ⊢
      cases other with
      | zero => exact .inr ⟨Nat.succ_pos remaining, _, rfl, rfl⟩
      | succ other =>
        dsimp only at walked ⊢
        cases base : descriptor.domainBase with
        | none =>
          rw [base] at walked
          exact .inl walked
        | some baseId =>
          rw [base] at walked
          dsimp only at walked ⊢
          cases required : setting.catalog.require baseId (some descriptor) with
          | error error =>
            rw [required] at walked
            cases walked
          | ok next =>
            rw [required, ok_bind] at walked
            exact (ih walked other).imp_right (And.imp_left Nat.succ_lt_succ)
    · rw [if_neg domain] at walked ⊢
      exact .inl walked

/-- A child that is admitted within some levels is refused within others for depth only. -/
theorem askChild_error_of_ok {remaining other : Nat} {descriptor : Descriptor} {role : ChildRole}
    {childId : TypeId} (admitted : askChild setting remaining descriptor role = .ok childId)
    {error : BuildError} (refused : askChild setting other descriptor role = .error error) :
    error.isRecursionLimit = true := by
  have found := child?_of_askChild admitted
  unfold askChild at admitted refused
  rw [found] at admitted refused
  dsimp only at admitted refused
  by_cases range : role = .rangeSubtype
  · rw [if_pos range] at admitted refused
    obtain ⟨-, sub, bottom, known, walked, composite⟩ := askSubtype_eq_ok admitted
    unfold askSubtype at refused
    rw [Catalog.require_eq_ok known, ok_bind] at refused
    rcases domainBottom_of_ok walked other with walked' | ⟨-, deep, walked', limit⟩
    · rw [walked', ok_bind, if_neg composite] at refused
      cases refused
    · rw [walked', error_bind] at refused
      cases refused
      exact limit
  · rw [if_neg range] at refused
    cases refused

end Resolve

/-! ### Two registries -/

/-- The error of a range that an id leads to, over a settled type without a name. -/
inductive UnnamedRange (setting : Setting) (registry : Registry) (id : TypeId) : BuildError → Prop
  | intro {rangeId subId : TypeId} {descriptor subDescriptor : Descriptor} {sub : TypeEntry}
      (leads : ReflTransGen (Refers setting registry.overrides) id rangeId)
      (known : setting.catalog.find? rangeId = some descriptor) (kind : descriptor.kind = .range)
      (refers : Refers setting registry.overrides rangeId subId)
      (knownSub : setting.catalog.find? subId = some subDescriptor)
      (settled : registry.types.find? subId = some sub) (unnamed : sub.output.name? = none) :
      UnnamedRange setting registry id
        (.typeResolution descriptor.displayName descriptor.kind
          (.configuration (.unnamedSubtype subDescriptor.displayName sub.output.text)))

/-- What a later registry may answer, by what the earlier one does: an answer is an answer, an error
is the same error, and an error of depth may become an answer, an error of depth, or the error of a
range over a type without a name. -/
inductive Follows (setting : Setting) (after : Registry) (id : TypeId) :
    Except BuildError TypeEntry → Except BuildError TypeEntry → Prop
  | answered (first second : TypeEntry) : Follows setting after id (.ok first) (.ok second)
  | failed {error : BuildError} (shallow : error.isRecursionLimit = false) :
      Follows setting after id (.error error) (.error error)
  | reached {error : BuildError} (deep : error.isRecursionLimit = true) (entry : TypeEntry) :
      Follows setting after id (.error error) (.ok entry)
  | stillDeep {error other : BuildError} (deep : error.isRecursionLimit = true)
      (deep' : other.isRecursionLimit = true) :
      Follows setting after id (.error error) (.error other)
  | unnamed {error other : BuildError} (deep : error.isRecursionLimit = true)
      (range : UnnamedRange setting after id other) :
      Follows setting after id (.error error) (.error other)

theorem Follows.same (after : Registry) (id : TypeId) (error : BuildError) :
    Follows setting after id (.error error) (.error error) := by
  cases deep : error.isRecursionLimit with
  | false => exact .failed deep
  | true => exact .stillDeep deep deep

/-- An error becomes an answer only if it is one of depth. -/
theorem Follows.deep {after : Registry} {id : TypeId} {error : BuildError} {entry : TypeEntry}
    (follows : Follows setting after id (.error error) (.ok entry)) :
    error.isRecursionLimit = true := by
  cases follows with
  | reached deep _ => exact deep

/-- Both children fail, and so do the types over them. -/
theorem Follows.resolving {after : Registry} {id childId : TypeId}
    (refers : Refers setting after.overrides id childId) (descriptor : Descriptor)
    {error other : BuildError}
    (follows : Follows setting after childId (.error error) (.error other)) :
    Follows setting after id (.error (error.resolving descriptor))
      (.error (other.resolving descriptor)) := by
  cases follows with
  | failed _ => exact .same after id _
  | stillDeep deep deep' =>
    rw [← BuildError.isRecursionLimit_resolving descriptor] at deep deep'
    exact .stillDeep deep deep'
  | unnamed deep range =>
    rw [← BuildError.isRecursionLimit_resolving descriptor] at deep
    obtain ⟨leads, known, kind, refersSub, knownSub, settled, unnamed⟩ := range
    exact .unnamed deep (.intro (.head refers leads) known kind refersSub knownSub settled unnamed)

/-- References are the same after a resolution. -/
theorem Settles.refers {before after : Registry} {id parent child : TypeId}
    {outcome : Except BuildError TypeEntry} (settles : Settles setting before id outcome after)
    (refers : Refers setting before.overrides parent child) :
    Refers setting after.overrides parent child := by
  rw [settles.overrides]
  exact refers

/-- A later registry: it has the same overrides, and has settled what the earlier one has. -/
structure Later (setting : Setting) (less more : Registry) : Prop where
  soundLess : Sound setting less
  soundMore : Sound setting more
  overrides : more.overrides = less.overrides
  settled : ∀ {id entry}, less.types.find? id = some entry →
    ∃ later, more.types.find? id = some later

namespace Later

variable {less more : Registry}

/-- An id that is about to be made in the later registry is so in the earlier one, and the other way
round if the later one has not settled it. -/
theorem opened (later : Later setting less more) {id : TypeId} {descriptor : Descriptor}
    (opened : Opened setting less id descriptor) (free : more.types.find? id = none) :
    Opened setting more id descriptor :=
  ⟨free, opened.known, by rw [later.overrides, opened.plain]⟩

theorem openedOver (later : Later setting less more) {remaining : Nat} {id childId : TypeId}
    {descriptor : Descriptor} {role : ChildRole}
    (opened : OpenedOver setting less remaining id descriptor role childId)
    (free : more.types.find? id = none) :
    OpenedOver setting more remaining id descriptor role childId :=
  ⟨later.opened opened.toOpened free, opened.rests, opened.admitted⟩

theorem plain (later : Later setting less more) {id : TypeId} {descriptor : Descriptor}
    (opened : Opened setting less id descriptor) : more.overrides.find? id = none := by
  rw [later.overrides, opened.plain]

/-- An id that is about to be made over a child is settled over it in the later registry, if at
all. -/
theorem settled_overChild (later : Later setting less more) {remaining : Nat} {id childId : TypeId}
    {descriptor : Descriptor} {role : ChildRole}
    (opened : OpenedOver setting less remaining id descriptor role childId) {entry : TypeEntry}
    (settled : more.types.find? id = some entry) :
    ∃ child shared, more.types.find? childId = some child ∧
      Completed setting more descriptor role childId child entry shared :=
  later.soundMore.settled_overChild settled opened.known (later.plain opened.toOpened) opened.rests
    (Resolve.child?_of_askChild opened.admitted)

/-- What is settled in the end has the same label in both. -/
theorem same_label (later : Later setting less more) {id : TypeId} {after after' : Registry}
    {entry entry' : TypeEntry} (settles : Settles setting less id (.ok entry) after)
    (settles' : Settles setting more id (.ok entry') after') :
    SameLabel entry.output entry'.output :=
  settles.sound.same_label settles'.sound
    (by rw [settles'.overrides, later.overrides, settles.overrides])
    (settles.returned rfl) (settles'.returned rfl)

/-- An id that the later registry has settled fails in the earlier one for depth only. -/
theorem deep_of_settled (later : Later setting less more) {remaining : Nat} {id : TypeId}
    {referrer : Option Descriptor} {after : Registry} {error : BuildError}
    (first : Resolves setting remaining id referrer less (.error error) after) {entry : TypeEntry}
    (settled : more.types.find? id = some entry) : error.isRecursionLimit = true := by
  generalize failed : Except.error error = outcome at first
  induction first generalizing error entry with
  | settled | overridden | alone | overChild => cases failed
  | unknown _ unknown =>
    obtain ⟨descriptor, known, -⟩ := later.soundMore.built settled
    cases unknown.symm.trans known
  | tooDeep _ _ =>
    cases failed
    rfl
  | unlabelled opened kind collide =>
    have childless := Descriptor.builtOver_enumeration kind
    obtain ⟨_, named⟩ :=
      (later.soundMore.settled_alone settled opened.known (later.plain opened) childless).members
        kind
    cases collide.symm.trans named
  | refused opened rests refused =>
    cases failed
    obtain ⟨_, _, _, _, admitted, -⟩ :=
      later.soundMore.settled_over settled opened.known (later.plain opened) rests
    rw [BuildError.isRecursionLimit_resolving]
    exact Resolve.askChild_error_of_ok admitted refused
  | childFailed opened _ ih =>
    cases failed
    obtain ⟨_, _, settledChild, -⟩ := later.settled_overChild opened settled
    rw [BuildError.isRecursionLimit_resolving]
    exact ih later settledChild rfl
  | unnamed opened sub _ unnamed _ =>
    -- The later registry has a range over the same child, which must have a name there.
    obtain ⟨child, _, settledChild, completed⟩ := later.settled_overChild opened settled
    have same := later.same_label (sub.settles later.soundLess)
      (.unchanged later.soundMore fun same => by cases same; exact settledChild)
    cases completed with
    | range _ _ name _ => cases (unnamed.symm.trans same.name).trans name

/-- It is enough to look at ids that the later registry has not settled. -/
theorem unless_settled (later : Later setting less more) {remaining : Nat} {id : TypeId}
    {referrer : Option Descriptor} {after after' : Registry}
    {outcome outcome' : Except BuildError TypeEntry}
    (first : Resolves setting remaining id referrer less outcome after)
    (second : Resolves setting remaining id referrer more outcome' after')
    (unsettled : more.types.find? id = none → Follows setting after' id outcome outcome') :
    Follows setting after' id outcome outcome' := by
  cases settled : more.types.find? id with
  | none => exact unsettled settled
  | some entry =>
    rw [second.of_settled settled]
    cases outcome with
    | ok made => exact .answered made entry
    | error error => exact .reached (later.deep_of_settled first settled) entry

end Later

/-- **A later registry answers no worse**, level by level. -/
theorem Resolves.follows {remaining : Nat} {id : TypeId} {referrer : Option Descriptor}
    {less more after after' : Registry} {outcome outcome' : Except BuildError TypeEntry}
    (first : Resolves setting remaining id referrer less outcome after)
    (later : Later setting less more)
    (second : Resolves setting remaining id referrer more outcome' after') :
    Follows setting after' id outcome outcome' := by
  refine later.unless_settled first second fun free => ?_
  induction first generalizing outcome' after' with
  | settled found =>
    obtain ⟨entry, found'⟩ := later.settled found
    cases free.symm.trans found'
  | unknown _ unknown =>
    rw [second.of_unknown free unknown]
    exact .same after' _ _
  | tooDeep _ known =>
    rw [second.of_zero free known]
    exact .same after' _ _
  | overridden _ known found =>
    rw [second.of_overridden free known (by rw [later.overrides, found])]
    exact .answered _ _
  | alone opened childless stands _ _ =>
    rcases second.of_childless (later.opened opened free) childless with
      ⟨entry, _, -, made⟩ | ⟨error, kind, collide, -⟩
    · rw [made]
      exact .answered _ entry
    · obtain ⟨_, named⟩ := stands.members kind
      cases collide.symm.trans named
  | unlabelled opened kind collide =>
    have childless := Descriptor.builtOver_enumeration kind
    rcases second.of_childless (later.opened opened free) childless with
      ⟨entry, _, stands, -⟩ | ⟨error, _, collide', failed⟩
    · obtain ⟨_, named⟩ := stands.members kind
      cases collide.symm.trans named
    · cases collide.symm.trans collide'
      rw [failed]
      exact .same after' _ _
  | refused opened rests refused =>
    rw [second.of_refused (later.opened opened free) rests refused]
    exact .same after' _ _
  | childFailed opened child ih =>
    have opened' := later.openedOver opened free
    rcases second.of_over opened' with ⟨error', child', failed⟩ |
      ⟨made, settled, child', ⟨rfl, unnamed, rfl, childDescriptor, knownChild, failed⟩ |
        ⟨entry, answer, -⟩⟩
    · rw [failed]
      have follows := later.unless_settled child child' fun freeChild => ih later child' freeChild
      exact follows.resolving ((child'.settles later.soundMore).refers opened'.refers) _
    · rw [failed]
      have follows := later.unless_settled child child' fun freeChild => ih later child' freeChild
      have settles := child'.settles later.soundMore
      have deep := follows.deep
      rw [← BuildError.isRecursionLimit_resolving] at deep
      exact .unnamed deep (.intro .refl opened.known
        (Descriptor.kind_of_builtOver_rangeSubtype opened.rests)
        (settles.refers opened'.refers) knownChild (settles.returned rfl) unnamed)
    · rw [answer]
      have follows := later.unless_settled child child' fun freeChild => ih later child' freeChild
      have deep := follows.deep
      rw [← BuildError.isRecursionLimit_resolving] at deep
      exact .reached deep entry
  | unnamed opened sub knownChild unnamed ih =>
    have opened' := later.openedOver opened free
    rcases second.of_over opened' with ⟨error', child', -⟩ |
      ⟨made, settled, child', ⟨-, -, -, childDescriptor, knownChild', failed⟩ | ⟨entry, -, named⟩⟩
    · cases later.unless_settled sub child' fun freeChild => ih later child' freeChild
    · have same := later.same_label (sub.settles later.soundLess) (child'.settles later.soundMore)
      obtain rfl := Option.some.inj (knownChild.symm.trans knownChild')
      rw [failed, same.text]
      exact .same after' _ _
    · have same := later.same_label (sub.settles later.soundLess) (child'.settles later.soundMore)
      exact absurd (same.name.symm.trans unnamed) (named rfl)
  | overChild opened below _ completed _ ih =>
    have opened' := later.openedOver opened free
    rcases second.of_over opened' with ⟨error', child', -⟩ |
      ⟨made, settled, child', ⟨rfl, unnamed, -⟩ | ⟨entry, answer, -⟩⟩
    · cases later.unless_settled below child' fun freeChild => ih later child' freeChild
    · have same := later.same_label (below.settles later.soundLess) (child'.settles later.soundMore)
      cases completed with
      | range _ _ name _ => cases (unnamed.symm.trans same.name.symm).trans name
    · rw [answer]
      exact .answered _ entry

/-! ### Any history -/

/-- A registry with overrides in which nothing is settled yet. -/
def Registry.fresh (pool : TypePool) (overrides : SortedMap TypeId Override) : Registry :=
  { Registry.initial with pool, overrides }

theorem Sound.fresh (pool : TypePool) (overrides : SortedMap TypeId Override) :
    Sound setting (.fresh pool overrides) where
  built found := by cases found
  grounded found := by cases found
  codecs_settled _ := rfl
  shapes found := by cases found

/-- Two registries that convert the values of an id alike. -/
structure ConvertAlike (setting : Setting) (id : TypeId) (first second : Registry) : Prop where
  decode : ∀ value, second.decode setting id value = first.decode setting id value
  encode : ∀ value, second.encode setting id value = first.encode setting id value
  decodeCached : ∀ value cache,
    second.decodeCached setting id value cache = first.decodeCached setting id value cache
  encodeCached : ∀ value cache,
    second.encodeCached setting id value cache = first.encodeCached setting id value cache

/-- An id settled under the same overrides is converted alike, since one conversion is
prescribed. -/
theorem Sound.convertAlike {first second : Registry} (sound : Sound setting first)
    (sound' : Sound setting second) (overrides : second.overrides = first.overrides) {id : TypeId}
    {entry entry' : TypeEntry} (settled : first.types.find? id = some entry)
    (settled' : second.types.find? id = some entry') : ConvertAlike setting id first second := by
  obtain ⟨codec, serves⟩ := sound.serves settled
  obtain ⟨codec', serves'⟩ := sound'.serves settled'
  have prescribed := (serves'.prescribed codec').2 rfl
  rw [overrides, serves.prescribed] at prescribed
  subst prescribed
  refine ⟨fun value => ?_, fun value => ?_, fun value cache => ?_, fun value cache => ?_⟩
  · rw [serves.decode, serves'.decode]
  · rw [serves.encode, serves'.encode]
  · rw [serves.decodeCached, serves'.decodeCached]
  · rw [serves.encodeCached, serves'.encodeCached]

/-- **Earlier requests do not change an answer**, nor an error that is not one of depth. An error of
depth may turn into an answer, stay one of depth, or give way to the error of a range, which the id
leads to, over a settled type without a name. -/
theorem history_independent {pool : TypePool} {overrides : SortedMap TypeId Override}
    {registry : Registry} (run : Run setting Request.Resolving (.fresh pool overrides) registry)
    (id : TypeId) :
    let first := Resolve.runOn (Resolve.entry setting id) (.fresh pool overrides)
    let second := Resolve.runOn (Resolve.entry setting id) registry
    (∀ entry, first.1 = .ok entry →
      (∃ later, second.1 = .ok later) ∧ ConvertAlike setting id first.2 second.2) ∧
    (∀ error, first.1 = .error error → error.isRecursionLimit = false → second.1 = .error error) ∧
    ∀ error, first.1 = .error error → error.isRecursionLimit = true →
      (∃ later, second.1 = .ok later) ∨ ∃ other, second.1 = .error other ∧
        (other.isRecursionLimit = true ∨ UnnamedRange setting second.2 id other) := by
  intro first second
  have soundFresh : Sound setting (.fresh pool overrides) := .fresh pool overrides
  have sound := run.sound soundFresh
  have later : Later setting (.fresh pool overrides) registry :=
    ⟨soundFresh, sound, run.overrides soundFresh, fun found => by cases found⟩
  have ran := resolveAt_resolves soundFresh.described setting.config.depthLimit id none
  have ran' := resolveAt_resolves sound.described setting.config.depthLimit id none
  have follows : Follows setting second.2 id first.1 second.1 := ran.follows later ran'
  have settles : Settles setting (.fresh pool overrides) id first.1 first.2 :=
    ran.settles soundFresh
  have settles' : Settles setting registry id second.1 second.2 := ran'.settles sound
  refine ⟨fun entry made => ?_, fun error failed shallow => ?_, fun error failed deep => ?_⟩
  · rw [made] at follows
    cases answer : second.1 with
    | error other =>
      rw [answer] at follows
      cases follows
    | ok entry' =>
      have same : second.2.overrides = first.2.overrides := by
        rw [settles.overrides, settles'.overrides, later.overrides]
      exact ⟨⟨entry', rfl⟩, settles.sound.convertAlike settles'.sound same (settles.returned made)
        (settles'.returned answer)⟩
  · rw [failed] at follows
    cases answer : second.1 with
    | ok entry' =>
      rw [answer] at follows
      cases shallow.symm.trans follows.deep
    | error other =>
      rw [answer] at follows
      cases follows with
      | failed _ => rfl
      | stillDeep deep _ => cases shallow.symm.trans deep
      | unnamed deep _ => cases shallow.symm.trans deep
  · rw [failed] at follows
    cases answer : second.1 with
    | ok entry' => exact .inl ⟨entry', rfl⟩
    | error other =>
      rw [answer] at follows
      cases follows with
      | failed shallow => cases shallow.symm.trans deep
      | stillDeep _ deep' => exact .inr ⟨other, rfl, .inl deep'⟩
      | unnamed _ range => exact .inr ⟨other, rfl, .inr range⟩

/-! ### A depth limit that hides an error -/

/-- A number type, a list over it and a range over the list, with room for two levels. -/
def shallowSetting : Setting where
  catalog := ⟨.ofList [
    (23, .plain 23 "pg_catalog" "int4" .base Category.numeric),
    (107, { Descriptor.plain 107 "app" "_int4" .array Category.array with arrayItem := some 23 }),
    (108, { Descriptor.plain 108 "app" "spans" .range Category.range with
      rangeSubtype := some 107 })]⟩
  naming := .standard Descriptor.name
  config := { Config.default with depthLimit := 2 }
  scalars := .make false

/-- Nothing is settled. -/
def shallowFresh : Registry := .fresh .initial .empty

/-- The range was asked for, and then the list. -/
def shallowListed : Registry :=
  Request.afterAll shallowSetting shallowFresh [.entry 108, .entry 107]

theorem shallowListed_run : Run shallowSetting Request.Resolving shallowFresh shallowListed := by
  refine Run.append .start fun request found => ?_
  simp only [List.mem_cons, List.not_mem_nil, or_false] at found
  rcases found with rfl | rfl <;> trivial

/-- An outcome is an error of a sort. -/
def failsWith {α : Type} (sort : BuildError → Bool) : Except BuildError α → Bool
  | .ok _ => false
  | .error error => sort error

theorem exists_of_failsWith {α : Type} (sort : BuildError → Bool) (outcome : Except BuildError α)
    (fails : failsWith sort outcome = true) :
    ∃ error, outcome = .error error ∧ sort error = true := by
  cases outcome with
  | ok value => cases fails
  | error error => exact ⟨error, rfl, fails⟩

theorem exists_of_isOk (outcome : Except BuildError TypeEntry) (made : outcome.isOk = true) :
    ∃ entry, outcome = .ok entry := by
  cases outcome with
  | ok entry => exact ⟨entry, rfl⟩
  | error error => cases made

/-- The range is too deep for the limit. Once the list is settled it is not, and then it is an error
that the list has no name: neither an answer nor an error of depth. -/
theorem depth_error_gives_way :
    Run shallowSetting Request.Resolving shallowFresh shallowListed ∧
      (∃ error, (Resolve.runOn (Resolve.entry shallowSetting 108) shallowFresh).1 = .error error ∧
        error.isRecursionLimit = true) ∧
      ∃ error, (Resolve.runOn (Resolve.entry shallowSetting 108) shallowListed).1 = .error error ∧
        error.isRecursionLimit = false ∧ error.chain = ["TypeResolution", "Configuration"] := by
  obtain ⟨error, failed, sort⟩ := exists_of_failsWith
    (fun error => !error.isRecursionLimit && error.chain = ["TypeResolution", "Configuration"])
    (Resolve.runOn (Resolve.entry shallowSetting 108) shallowListed).1 (by decide +kernel)
  simp only [Bool.and_eq_true, Bool.not_eq_true', decide_eq_true_eq] at sort
  exact ⟨shallowListed_run, exists_of_failsWith _ _ (by decide +kernel), error, failed, sort⟩

/-- The list is answered and converted as before; what is unknown is the same error; the range is
too deep for the empty registry. -/
theorem history_independent_shallow :
    Run shallowSetting Request.Resolving shallowFresh shallowListed ∧
      ((∃ later, (Resolve.runOn (Resolve.entry shallowSetting 107) shallowListed).1 = .ok later) ∧
        ConvertAlike shallowSetting 107
          (Resolve.runOn (Resolve.entry shallowSetting 107) shallowFresh).2
          (Resolve.runOn (Resolve.entry shallowSetting 107) shallowListed).2) ∧
      (∃ error, error.isRecursionLimit = false ∧
        (Resolve.runOn (Resolve.entry shallowSetting 999) shallowFresh).1 = .error error ∧
        (Resolve.runOn (Resolve.entry shallowSetting 999) shallowListed).1 = .error error) ∧
      ((∃ later, (Resolve.runOn (Resolve.entry shallowSetting 108) shallowListed).1 = .ok later) ∨
        ∃ other, (Resolve.runOn (Resolve.entry shallowSetting 108) shallowListed).1 = .error other ∧
          (other.isRecursionLimit = true ∨ UnnamedRange shallowSetting
            (Resolve.runOn (Resolve.entry shallowSetting 108) shallowListed).2 108 other)) := by
  obtain ⟨entry, made⟩ := exists_of_isOk
    (Resolve.runOn (Resolve.entry shallowSetting 107) shallowFresh).1 (by decide +kernel)
  obtain ⟨error, failed, shallow⟩ := exists_of_failsWith (fun error => !error.isRecursionLimit)
    (Resolve.runOn (Resolve.entry shallowSetting 999) shallowFresh).1 (by decide +kernel)
  obtain ⟨deepError, tooDeep, deep⟩ := exists_of_failsWith BuildError.isRecursionLimit
    (Resolve.runOn (Resolve.entry shallowSetting 108) shallowFresh).1 (by decide +kernel)
  rw [Bool.not_eq_true'] at shallow
  obtain ⟨answers, -, -⟩ := history_independent shallowListed_run 107
  obtain ⟨-, errors, -⟩ := history_independent shallowListed_run 999
  obtain ⟨-, -, depths⟩ := history_independent shallowListed_run 108
  exact ⟨shallowListed_run, answers entry made,
    ⟨error, shallow, failed, errors error failed shallow⟩, depths deepError tooDeep deep⟩

end CatalogSchema
