import Provisr.Foundation.GoMap
import Provisr.Foundation.Float64
import Provisr.Backend.Strings

namespace Provisr.Backend.Pricing

open Provisr.Foundation

-- strings.EqualFold, strconv.ParseFloat and package time.
class GoLibrary where
  fold : Char → Char
  ParseFloat : String → Option Float64
  Time : Type
  zero : Time
  UTC : Time → Time
  Parse : String → String → Option Time

section Documents

structure LookupRequest where
  service : String
  region : String
  tier : String
  unit : String
  currency : String
  mode : String
  filters : GoMap String

structure PriceDimension where
  unit : String
  effectiveDate : String
  pricePerUnit : GoMap String

structure Term where
  priceDimensions : GoMap PriceDimension

structure Product where
  attributes : GoMap String

structure AwsBulkFile where
  products : GoMap Product
  onDemand : GoMap (GoMap Term)

structure AwsBulkOffer where
  product : Product
  onDemand : GoMap (GoMap Term)

end Documents

variable [GoLibrary]

structure ProviderOffer where
  unit : String
  pricePerUnit : Float64
  currency : String
  effectiveDate : GoLibrary.Time
  tier : String

section Selection

-- What a map of texts holds under a key; the empty text where it holds nothing.
def textAt (m : GoMap String) (key : String) : String := (m.get? key).getD ""

def EqualFold (s t : String) : Bool := s.toList.map GoLibrary.fold == t.toList.map GoLibrary.fold

def matchesAttributes (attributes filters : GoMap String) : Bool :=
  filters.entries.all fun f => EqualFold (textAt attributes f.1) f.2

def tierKeys : List String := ["instanceType", "volumeType", "databaseEdition", "databaseEngine", "productFamily"]

def matchesTier (attributes : GoMap String) (tier : String) : Bool :=
  tier == "" || tierKeys.any fun key => EqualFold (textAt attributes key) tier

def parsePrice (value : String) : Option Float64 := GoLibrary.ParseFloat value

def dateLayouts : List String := ["2006-01-02T15:04:05.999999999Z07:00", "2006-01-02"]

def parseDate (value : String) : GoLibrary.Time :=
  ((dateLayouts.findSome? fun layout => GoLibrary.Parse layout value).map GoLibrary.UTC).getD GoLibrary.zero

def firstNonEmpty (values : List String) : String := (values.find? fun value => TrimSpace value != "").getD "unknown"

def safeSegment (value : String) : Bool :=
  value != "" && value.toList.all fun r =>
    ('a' ≤ r && r ≤ 'z') || ('A' ≤ r && r ≤ 'Z') || ('0' ≤ r && r ≤ '9') || r == '-' || r == '_'

variable (request : LookupRequest)

def price (d : PriceDimension) : Option Float64 := parsePrice (textAt d.pricePerUnit request.currency)

def matchesProduct (p : Product) : Bool :=
  matchesAttributes p.attributes request.filters && matchesTier p.attributes request.tier

def ofUnit (unit : String) : Bool := request.unit == "" || EqualFold request.unit unit

def bulkOffer (p : Product) (d : PriceDimension) : Option ProviderOffer :=
  (price request d).map fun price => ⟨d.unit, price, request.currency, parseDate d.effectiveDate,
    firstNonEmpty [textAt p.attributes "instanceType", textAt p.attributes "volumeType", request.tier]⟩

-- The loops over the terms of a product and the dimensions of each.
def eachDimension {β : Type} (terms : GoMap Term) (offer : PriceDimension → Option β) : Option β :=
  terms.first fun _ term => term.priceDimensions.first fun _ dimension => offer dimension

def bulkProduct (file : AwsBulkFile) (sku : String) (p : Product) : Option ProviderOffer :=
  if !matchesProduct request p then none
  else (file.onDemand.get? sku).bind fun terms => eachDimension terms fun dimension =>
    if !ofUnit request dimension.unit then none else bulkOffer request p dimension

def served : Bool := safeSegment request.service && safeSegment request.region

-- The file is the answer to the request for it; none stands for ErrNotFound.
def bulkAPI (file : AwsBulkFile) : Option ProviderOffer :=
  if !served request then none else file.products.first (bulkProduct request file)

def queryOffer (p : Product) (d : PriceDimension) : Option ProviderOffer :=
  (price request d).map fun price => ⟨d.unit, price, request.currency, parseDate d.effectiveDate,
    firstNonEmpty [textAt p.attributes "instanceType", textAt p.attributes "volumeType"]⟩

def awsPrice (offer : AwsBulkOffer) : Option ProviderOffer :=
  offer.onDemand.first fun _ byCode => eachDimension byCode (queryOffer request offer.product)

def queryItem : Option AwsBulkOffer → Option ProviderOffer
  | none => none
  | some offer => if matchesProduct request offer.product then awsPrice request offer else none

-- PriceList, where an item that does not decode as an offer is passed over.
def queryAPI (priceList : List (Option AwsBulkOffer)) : Option ProviderOffer := priceList.findSome? (queryItem request)

def found : Option ProviderOffer → Except String ProviderOffer
  | none => .error "not found"
  | some offer => .ok offer

-- Under `on_demand` the list is the answer to the signed request.
def lookup (keys : Bool) (file : AwsBulkFile) (priceList : List (Option AwsBulkOffer)) : Except String ProviderOffer :=
  if request.mode == "on_demand" then
    if keys then found (queryAPI request priceList) else .error "unavailable"
  else found (bulkAPI request file)

end Selection

section Orders

def Term.Same (t u : Term) : Prop := GoMap.Reordered Eq t.priceDimensions u.priceDimensions

def SameTerms : GoMap Term → GoMap Term → Prop := GoMap.Reordered Term.Same

structure AwsBulkFile.Same (f g : AwsBulkFile) : Prop where
  products : GoMap.Reordered Eq f.products g.products
  onDemand : GoMap.Reordered SameTerms f.onDemand g.onDemand

structure AwsBulkOffer.Same (o p : AwsBulkOffer) : Prop where
  product : o.product = p.product
  onDemand : GoMap.Reordered SameTerms o.onDemand p.onDemand

def SameList : List (Option AwsBulkOffer) → List (Option AwsBulkOffer) → Prop :=
  List.Forall₂ (Option.Rel AwsBulkOffer.Same)

omit [GoLibrary]

theorem Term.Same.refl (t : Term) : t.Same t := GoMap.Reordered.refl Eq.refl _

theorem Term.Same.symm (t u : Term) (same : t.Same u) : u.Same t := GoMap.Reordered.symm (fun _ _ => Eq.symm) same

theorem SameTerms.refl (ts : GoMap Term) : SameTerms ts ts := GoMap.Reordered.refl Term.Same.refl ts

theorem SameTerms.symm (ts us : GoMap Term) (same : SameTerms ts us) : SameTerms us ts :=
  GoMap.Reordered.symm Term.Same.symm same

theorem AwsBulkFile.Same.symm {f g : AwsBulkFile} (same : f.Same g) : g.Same f :=
  ⟨same.products.symm fun _ _ => Eq.symm, same.onDemand.symm SameTerms.symm⟩

theorem AwsBulkOffer.Same.refl (o : AwsBulkOffer) : o.Same o := ⟨rfl, GoMap.Reordered.refl SameTerms.refl _⟩

theorem AwsBulkOffer.Same.symm {o p : AwsBulkOffer} (same : o.Same p) : p.Same o :=
  ⟨same.product.symm, same.onDemand.symm SameTerms.symm⟩

def Holds (terms : GoMap Term) (d : PriceDimension) : Prop :=
  ∃ code term key, terms.get? code = some term ∧ term.priceDimensions.get? key = some d

variable {terms us : GoMap Term} {d : PriceDimension} {β : Type} {offer : PriceDimension → Option β} {b : β}

theorem of_eachDimension (found : eachDimension terms offer = some b) : ∃ d, Holds terms d ∧ offer d = some b := by
  obtain ⟨code, term, here, found⟩ := GoMap.of_first_some found
  obtain ⟨key, d, inside, answer⟩ := GoMap.of_first_some found
  exact ⟨d, ⟨code, term, key, here, inside⟩, answer⟩

theorem eachDimension_eq_none_iff : eachDimension terms offer = none ↔ ∀ d, Holds terms d → offer d = none := by
  unfold eachDimension
  rw [GoMap.first_eq_none_iff]
  constructor
  · rintro idle d ⟨code, term, key, here, inside⟩
    exact GoMap.first_eq_none_iff.mp (idle code term here) key d inside
  · intro idle code term here
    exact GoMap.first_eq_none_iff.mpr fun key d inside => idle d ⟨code, term, key, here, inside⟩

theorem Holds.same (holds : Holds terms d) (same : SameTerms terms us) : Holds us d := by
  obtain ⟨code, term, key, here, inside⟩ := holds
  obtain ⟨term', there, related⟩ := same.get? here
  obtain ⟨d', inside', rfl⟩ := related.get? inside
  exact ⟨code, term', key, there, inside'⟩

theorem Holds.exists_first (holds : Holds terms d) (answer : offer d = some b) :
    ∃ us, SameTerms terms us ∧ eachDimension us offer = some b := by
  obtain ⟨code, term, key, here, inside⟩ := holds
  have related : term.Same ⟨term.priceDimensions.set key d⟩ :=
    GoMap.set_reordered Eq.refl inside rfl
  refine ⟨terms.set code _, GoMap.set_reordered Term.Same.refl here related, ?_⟩
  exact GoMap.set_first (GoMap.set_first answer)

end Orders

section Bulk

variable {request : LookupRequest} {file g : AwsBulkFile} {p : Product} {d : PriceDimension} {o : ProviderOffer}

def Candidate (request : LookupRequest) (file : AwsBulkFile) (p : Product) (d : PriceDimension) : Prop :=
  ∃ sku terms, file.products.get? sku = some p ∧ matchesProduct request p = true ∧
    file.onDemand.get? sku = some terms ∧ Holds terms d ∧ (price request d).isSome = true

theorem Candidate.same (candidate : Candidate request file p d) (same : file.Same g) : Candidate request g p d := by
  obtain ⟨sku, terms, here, matched, sold, holds, priced⟩ := candidate
  obtain ⟨p', there, rfl⟩ := same.products.get? here
  obtain ⟨terms', sold', related⟩ := same.onDemand.get? sold
  exact ⟨sku, terms', there, matched, sold', holds.same related, priced⟩

theorem bulkOffer_isSome : (bulkOffer request p d).isSome = (price request d).isSome := Option.isSome_map

theorem of_bulkAPI (found : bulkAPI request file = some o) :
    served request = true ∧ ∃ p d, Candidate request file p d ∧ ofUnit request d.unit = true ∧
      bulkOffer request p d = some o := by
  unfold bulkAPI at found
  split at found
  · cases found
  · rename_i safe
    refine ⟨by simpa using safe, ?_⟩
    obtain ⟨sku, p, here, found⟩ := GoMap.of_first_some found
    unfold bulkProduct at found
    split at found
    · cases found
    · rename_i matched
      obtain ⟨terms, sold, found⟩ := Option.bind_eq_some_iff.mp found
      obtain ⟨d, holds, answer⟩ := of_eachDimension found
      split at answer
      · cases answer
      · rename_i unit
        have priced : (price request d).isSome = true := by rw [← bulkOffer_isSome (p := p), answer, Option.isSome_some]
        exact ⟨p, d, ⟨sku, terms, here, by simpa using matched, sold, holds, priced⟩, by simpa using unit, answer⟩

theorem bulkProduct_eq {sku : String} {terms : GoMap Term} (matched : matchesProduct request p = true)
    (sold : file.onDemand.get? sku = some terms) : bulkProduct request file sku p =
      eachDimension terms fun dimension =>
        if !ofUnit request dimension.unit then none else bulkOffer request p dimension := by
  unfold bulkProduct
  rw [matched, sold]
  rfl

theorem bulkAPI_ne_none (safe : served request = true) (candidate : Candidate request file p d)
    (unit : ofUnit request d.unit = true) : bulkAPI request file ≠ none := by
  obtain ⟨sku, terms, here, matched, sold, holds, priced⟩ := candidate
  unfold bulkAPI
  rw [safe]
  intro silent
  have idle := GoMap.first_eq_none_iff.mp silent sku p here
  rw [bulkProduct_eq matched sold] at idle
  have never : bulkOffer request p d = none := by simpa [unit] using eachDimension_eq_none_iff.mp idle d holds
  rw [← bulkOffer_isSome (p := p), never] at priced
  cases priced

theorem exists_bulkAPI (safe : served request = true) (candidate : Candidate request file p d)
    (unit : ofUnit request d.unit = true) : ∃ g, file.Same g ∧ bulkAPI request g = bulkOffer request p d := by
  obtain ⟨sku, terms, here, matched, sold, holds, priced⟩ := candidate
  rw [← bulkOffer_isSome (p := p)] at priced
  obtain ⟨o, answer⟩ := Option.isSome_iff_exists.mp priced
  let offer : PriceDimension → Option ProviderOffer := fun dimension =>
    if !ofUnit request dimension.unit then none else bulkOffer request p dimension
  have offered : offer d = some o := by simp [offer, unit, answer]
  obtain ⟨us, same, first⟩ := holds.exists_first offered
  let g : AwsBulkFile := ⟨file.products.set sku p, file.onDemand.set sku us⟩
  have same_file : file.Same g := ⟨GoMap.set_reordered Eq.refl here rfl,
    GoMap.set_reordered SameTerms.refl sold same⟩
  have sold' : g.onDemand.get? sku = some us := GoMap.get?_eq_some_iff.mpr List.mem_cons_self
  refine ⟨g, same_file, ?_⟩
  unfold bulkAPI
  rw [safe, answer]
  refine GoMap.set_first ?_
  rw [bulkProduct_eq matched sold']
  exact first

end Bulk

section Query

variable {request : LookupRequest} {item item' : Option AwsBulkOffer} {list list' : List (Option AwsBulkOffer)}
  {p : Product} {d : PriceDimension} {q : ProviderOffer}

def Listed (request : LookupRequest) (item : Option AwsBulkOffer) (p : Product) (d : PriceDimension) : Prop :=
  ∃ o sku terms, item = some o ∧ o.product = p ∧ matchesProduct request p = true ∧
    o.onDemand.get? sku = some terms ∧ Holds terms d ∧ (price request d).isSome = true

theorem Listed.same (listed : Listed request item p d) (same : Option.Rel AwsBulkOffer.Same item item') :
    Listed request item' p d := by
  obtain ⟨o, sku, terms, rfl, rfl, matched, sold, holds, priced⟩ := listed
  cases same with
  | some related =>
    obtain ⟨terms', sold', terms_same⟩ := related.onDemand.get? sold
    exact ⟨_, sku, terms', rfl, related.product.symm, matched, sold', holds.same terms_same, priced⟩

omit [GoLibrary] in
theorem same_symm (same : Option.Rel AwsBulkOffer.Same item item') : Option.Rel AwsBulkOffer.Same item' item := by
  cases same with
  | some related => exact .some related.symm
  | none => exact .none

theorem queryOffer_isSome : (queryOffer request p d).isSome = (price request d).isSome := Option.isSome_map

theorem of_queryItem (found : queryItem request item = some q) :
    ∃ p d, Listed request item p d ∧ queryOffer request p d = some q := by
  cases item with
  | none => cases found
  | some o =>
    change (if matchesProduct request o.product then awsPrice request o else none) = some q at found
    split at found
    · rename_i matched
      obtain ⟨sku, terms, sold, found⟩ := GoMap.of_first_some found
      obtain ⟨d, holds, answer⟩ := of_eachDimension found
      have priced : (price request d).isSome = true := by
        rw [← queryOffer_isSome (p := o.product), answer, Option.isSome_some]
      exact ⟨o.product, d, ⟨o, sku, terms, rfl, rfl, matched, sold, holds, priced⟩, answer⟩
    · cases found

theorem queryItem_eq_none_iff : queryItem request item = none ↔ ∀ p d, ¬ Listed request item p d := by
  constructor
  · rintro idle p d ⟨o, sku, terms, rfl, rfl, matched, sold, holds, priced⟩
    change (if matchesProduct request o.product then awsPrice request o else none) = none at idle
    rw [if_pos matched] at idle
    have never := eachDimension_eq_none_iff.mp (GoMap.first_eq_none_iff.mp idle sku terms sold) d holds
    rw [← queryOffer_isSome (p := o.product), never] at priced
    cases priced
  · intro never
    cases result : queryItem request item with
    | none => rfl
    | some q =>
      obtain ⟨p, d, listed, -⟩ := of_queryItem result
      exact absurd listed (never p d)

theorem Listed.exists_first (listed : Listed request item p d) :
    ∃ item', Option.Rel AwsBulkOffer.Same item item' ∧ queryItem request item' = queryOffer request p d := by
  obtain ⟨o, sku, terms, rfl, rfl, matched, sold, holds, priced⟩ := listed
  rw [← queryOffer_isSome (p := o.product)] at priced
  obtain ⟨q, answer⟩ := Option.isSome_iff_exists.mp priced
  obtain ⟨us, same, first⟩ := holds.exists_first answer
  refine ⟨some ⟨o.product, o.onDemand.set sku us⟩,
    .some ⟨rfl, GoMap.set_reordered SameTerms.refl sold same⟩, ?_⟩
  change (if matchesProduct request o.product then awsPrice request _ else none) = _
  rw [if_pos matched, answer]
  exact GoMap.set_first first

def Leading (request : LookupRequest) (list : List (Option AwsBulkOffer)) (item : Option AwsBulkOffer) : Prop :=
  ∃ before after, list = before ++ item :: after ∧ ∀ x ∈ before, ∀ p d, ¬ Listed request x p d

omit [GoLibrary] in
theorem same_refl (list : List (Option AwsBulkOffer)) : SameList list list := by
  induction list with
  | nil => exact .nil
  | cons item _ ih => exact .cons (GoMap.rel_self AwsBulkOffer.Same.refl item) ih

theorem Leading.exists_first (leading : Leading request list item) (listed : Listed request item p d) :
    ∃ list', SameList list list' ∧ queryAPI request list' = queryOffer request p d := by
  obtain ⟨before, after, rfl, idle⟩ := leading
  obtain ⟨item', same, first⟩ := listed.exists_first
  refine ⟨before ++ item' :: after, List.rel_append (same_refl before) (.cons same (same_refl after)), ?_⟩
  have passed : before.findSome? (queryItem request) = none :=
    List.findSome?_eq_none_iff.mpr fun x member => queryItem_eq_none_iff.mpr (idle x member)
  obtain ⟨-, -, -, -, -, -, -, -, priced⟩ := listed
  rw [← queryOffer_isSome (p := p)] at priced
  obtain ⟨q, answer⟩ := Option.isSome_iff_exists.mp priced
  unfold queryAPI
  rw [List.findSome?_append, passed, Option.none_or, List.findSome?_cons, first, answer]

theorem of_queryAPI (found : queryAPI request list = some q) :
    ∃ item p d, Leading request list item ∧ Listed request item p d ∧ queryOffer request p d = some q := by
  unfold queryAPI at found
  induction list with
  | nil => cases found
  | cons item list ih =>
    rw [List.findSome?_cons] at found
    cases here : queryItem request item with
    | some q' =>
      rw [here] at found
      obtain rfl := Option.some.inj found
      obtain ⟨p, d, listed, answer⟩ := of_queryItem here
      exact ⟨item, p, d, ⟨[], list, rfl, fun _ member => absurd member List.not_mem_nil⟩, listed, answer⟩
    | none =>
      rw [here] at found
      obtain ⟨item', p, d, ⟨before, after, rfl, idle⟩, listed, answer⟩ := ih found
      refine ⟨item', p, d, ⟨item :: before, after, rfl, ?_⟩, listed, answer⟩
      exact List.forall_mem_cons.mpr ⟨queryItem_eq_none_iff.mp here, idle⟩

theorem queryAPI_eq_none_iff : queryAPI request list = none ↔ ∀ item ∈ list, ∀ p d, ¬ Listed request item p d := by
  unfold queryAPI
  rw [List.findSome?_eq_none_iff]
  exact forall₂_congr fun item _ => queryItem_eq_none_iff

-- Every priced dimension of the first item that has any makes the same offer.
def QueryUniform (request : LookupRequest) (list : List (Option AwsBulkOffer)) : Prop :=
  ∀ item, Leading request list item → ∀ p d p' d', Listed request item p d → Listed request item p' d' →
    queryOffer request p d = queryOffer request p' d'

theorem queryAPI_same (uniform : QueryUniform request list) (same : SameList list list') :
    queryAPI request list' = queryAPI request list := by
  induction same with
  | nil => rfl
  | @cons item item' list list' related same ih =>
    unfold queryAPI at ih ⊢
    rw [List.findSome?_cons, List.findSome?_cons]
    cases here : queryItem request item with
    | none =>
      have never := queryItem_eq_none_iff.mp here
      have there : queryItem request item' = none :=
        queryItem_eq_none_iff.mpr fun p d listed => never p d (listed.same (same_symm related))
      rw [there]
      refine ih ?_
      rintro first ⟨before, after, rfl, idle⟩
      exact uniform first ⟨item :: before, after, rfl, List.forall_mem_cons.mpr ⟨never, idle⟩⟩
    | some q =>
      obtain ⟨p, d, listed, answer⟩ := of_queryItem here
      have leading : Leading request (item :: list) item :=
        ⟨[], list, rfl, fun _ member => absurd member List.not_mem_nil⟩
      cases there : queryItem request item' with
      | none => exact absurd (listed.same related) (queryItem_eq_none_iff.mp there p d)
      | some q' =>
        obtain ⟨p', d', listed', answer'⟩ := of_queryItem there
        have equal := uniform item leading p d p' d' listed (listed'.same (same_symm related))
        rw [answer, answer'] at equal
        exact equal.symm

end Query

section Agreement

variable {request : LookupRequest} {file : AwsBulkFile} {list : List (Option AwsBulkOffer)} {p : Product}
  {d : PriceDimension}

def OfferOf (file : AwsBulkFile) (sku : String) (item : Option AwsBulkOffer) : Prop :=
  ∃ o, item = some o ∧ file.products.get? sku = some o.product ∧
    ∀ key, Option.Rel SameTerms (if key = sku then file.onDemand.get? sku else none) (o.onDemand.get? key)

def Answers (request : LookupRequest) (file : AwsBulkFile) (list : List (Option AwsBulkOffer)) : Prop :=
  ∃ skus : List String, skus.Nodup ∧
    (∀ sku, sku ∈ skus ↔ ∃ p, file.products.get? sku = some p ∧ matchesProduct request p = true) ∧
      List.Forall₂ (OfferOf file) skus list

omit [GoLibrary] in
theorem exists_right {α β : Type} {R : α → β → Prop} {xs : List α} {ys : List β} (related : List.Forall₂ R xs ys)
    {x : α} (member : x ∈ xs) : ∃ y ∈ ys, R x y := by
  induction related with
  | nil => cases member
  | cons r _ ih =>
    rcases List.mem_cons.mp member with rfl | member
    · exact ⟨_, List.mem_cons_self, r⟩
    · obtain ⟨y, inside, r⟩ := ih member
      exact ⟨y, List.mem_cons_of_mem _ inside, r⟩

omit [GoLibrary] in
theorem exists_left {α β : Type} {R : α → β → Prop} {xs : List α} {ys : List β} (related : List.Forall₂ R xs ys)
    {y : β} (member : y ∈ ys) : ∃ x ∈ xs, R x y := exists_right related.flip member

theorem Answers.candidate (answers : Answers request file list) {item : Option AwsBulkOffer} (member : item ∈ list)
    (listed : Listed request item p d) : Candidate request file p d := by
  obtain ⟨skus, -, all, related⟩ := answers
  obtain ⟨sku, -, o, rfl, here, terms⟩ := exists_left related member
  obtain ⟨o', key, us, same, rfl, matched, sold, holds, priced⟩ := listed
  obtain rfl := Option.some.inj same
  have equal := terms key
  rw [sold] at equal
  split at equal
  · generalize stored : file.onDemand.get? sku = x at equal
    cases equal with
    | some r => exact ⟨sku, _, here, matched, stored, holds.same (SameTerms.symm _ _ r), priced⟩
  · cases equal

theorem Answers.listed (answers : Answers request file list) (candidate : Candidate request file p d) :
    ∃ item ∈ list, Listed request item p d := by
  obtain ⟨skus, -, all, related⟩ := answers
  obtain ⟨sku, terms, here, matched, sold, holds, priced⟩ := candidate
  obtain ⟨item, member, o, rfl, stored, equal⟩ := exists_right related ((all sku).mpr ⟨p, here, matched⟩)
  rw [here] at stored
  obtain rfl := Option.some.inj stored
  have same := equal sku
  rw [if_pos rfl, sold] at same
  generalize kept : o.onDemand.get? sku = x at same
  cases same with
  | some r => exact ⟨_, member, o, sku, _, rfl, rfl, matched, kept, holds.same r, priced⟩

def priced (o : ProviderOffer) : String × Float64 := (o.unit, o.pricePerUnit)

theorem offers_priced {o q : ProviderOffer} (bulk : bulkOffer request p d = some o)
    (query : queryOffer request p d = some q) : priced q = priced o ∧ q.unit = d.unit := by
  obtain ⟨x, hx, rfl⟩ := Option.map_eq_some_iff.mp bulk
  obtain ⟨y, hy, rfl⟩ := Option.map_eq_some_iff.mp query
  rw [hx] at hy
  obtain rfl := Option.some.inj hy
  exact ⟨rfl, rfl⟩

-- No order of the maps makes a difference, and the two paths agree on the products that match.
structure Selects (request : LookupRequest) (file : AwsBulkFile) (list : List (Option AwsBulkOffer)) : Prop where
  bulk : ∀ g, file.Same g → bulkAPI request g = bulkAPI request file
  query : ∀ list', SameList list list' → queryAPI request list' = queryAPI request list
  agree : Answers request file list → (queryAPI request list).map priced = (bulkAPI request file).map priced
  unit : Answers request file list → ∀ o, queryAPI request list = some o ∨ bulkAPI request file = some o →
    ofUnit request o.unit = true

structure Uniform (request : LookupRequest) (file : AwsBulkFile) (list : List (Option AwsBulkOffer)) : Prop where
  bulk : served request = true → ∀ p d p' d', Candidate request file p d → ofUnit request d.unit = true →
    Candidate request file p' d' → ofUnit request d'.unit = true → bulkOffer request p d = bulkOffer request p' d'
  query : QueryUniform request list
  units : Answers request file list → ∀ item p d, Leading request list item → Listed request item p d →
    served request = true ∧ ofUnit request d.unit = true

theorem bulkAPI_same (uniform : Uniform request file list) {g : AwsBulkFile} (same : file.Same g) :
    bulkAPI request g = bulkAPI request file := by
  cases left : bulkAPI request g with
  | none =>
    cases right : bulkAPI request file with
    | none => rfl
    | some o =>
      obtain ⟨safe, p, d, candidate, unit, -⟩ := of_bulkAPI right
      exact absurd left (bulkAPI_ne_none safe (candidate.same same) unit)
  | some o =>
    obtain ⟨safe, p, d, candidate, unit, answer⟩ := of_bulkAPI left
    have back := candidate.same same.symm
    cases right : bulkAPI request file with
    | none => exact absurd right (bulkAPI_ne_none safe back unit)
    | some o' =>
      obtain ⟨-, p', d', candidate', unit', answer'⟩ := of_bulkAPI right
      rw [← answer, ← answer']
      exact uniform.bulk safe p d p' d' back unit candidate' unit'

theorem leading_mem {item : Option AwsBulkOffer} (leading : Leading request list item) : item ∈ list := by
  obtain ⟨before, after, rfl, -⟩ := leading
  exact List.mem_append_right _ List.mem_cons_self

theorem bulkOffer_of_candidate (candidate : Candidate request file p d) : ∃ o, bulkOffer request p d = some o := by
  obtain ⟨sku, terms, -, -, -, -, priced⟩ := candidate
  rw [← bulkOffer_isSome (p := p)] at priced
  exact Option.isSome_iff_exists.mp priced

theorem agree_of_uniform (uniform : Uniform request file list) (answers : Answers request file list) :
    (queryAPI request list).map priced = (bulkAPI request file).map priced := by
  cases left : queryAPI request list with
  | none =>
    cases right : bulkAPI request file with
    | none => rfl
    | some o =>
      obtain ⟨-, p, d, candidate, -, -⟩ := of_bulkAPI right
      obtain ⟨item, member, listed⟩ := answers.listed candidate
      exact absurd listed (queryAPI_eq_none_iff.mp left item member p d)
  | some q =>
    obtain ⟨item, p, d, leading, listed, answer⟩ := of_queryAPI left
    obtain ⟨safe, unit⟩ := uniform.units answers item p d leading listed
    have candidate := answers.candidate (leading_mem leading) listed
    cases right : bulkAPI request file with
    | none => exact absurd right (bulkAPI_ne_none safe candidate unit)
    | some o =>
      obtain ⟨-, p', d', candidate', unit', answer'⟩ := of_bulkAPI right
      rw [← uniform.bulk safe p d p' d' candidate unit candidate' unit'] at answer'
      exact congrArg some (offers_priced answer' answer).1

theorem selects_of_uniform (uniform : Uniform request file list) : Selects request file list where
  bulk g same := bulkAPI_same uniform same
  query list' same := queryAPI_same uniform.query same
  agree answers := agree_of_uniform uniform answers
  unit answers o found := by
    rcases found with query | bulk
    · obtain ⟨item, p, d, leading, listed, answer⟩ := of_queryAPI query
      have candidate := answers.candidate (leading_mem leading) listed
      obtain ⟨o', bulk⟩ := bulkOffer_of_candidate candidate
      rw [(offers_priced bulk answer).2]
      exact (uniform.units answers item p d leading listed).2
    · obtain ⟨-, p, d, candidate, unit, answer⟩ := of_bulkAPI bulk
      obtain ⟨x, -, rfl⟩ := Option.map_eq_some_iff.mp answer
      exact unit

theorem uniform_of_selects (selects : Selects request file list) : Uniform request file list where
  bulk safe p d p' d' candidate unit candidate' unit' := by
    obtain ⟨g, same, first⟩ := exists_bulkAPI safe candidate unit
    obtain ⟨g', same', first'⟩ := exists_bulkAPI safe candidate' unit'
    rw [← first, ← first', selects.bulk g same, selects.bulk g' same']
  query item leading p d p' d' listed listed' := by
    obtain ⟨list', same, first⟩ := leading.exists_first listed
    obtain ⟨list'', same', first'⟩ := leading.exists_first listed'
    rw [← first, ← first', selects.query list' same, selects.query list'' same']
  units answers item p d leading listed := by
    have candidate := answers.candidate (leading_mem leading) listed
    obtain ⟨o, bulk⟩ := bulkOffer_of_candidate candidate
    obtain ⟨list', same, first⟩ := leading.exists_first listed
    rw [selects.query list' same] at first
    have some_query : (queryOffer request p d).isSome = true := by
      rw [queryOffer_isSome, ← bulkOffer_isSome (p := p), bulk, Option.isSome_some]
    obtain ⟨q, query⟩ := Option.isSome_iff_exists.mp some_query
    rw [query] at first
    have agree := selects.agree answers
    rw [first] at agree
    obtain ⟨o', found, -⟩ := Option.map_eq_some_iff.mp agree.symm
    refine ⟨(of_bulkAPI found).1, ?_⟩
    rw [← (offers_priced bulk query).2]
    exact selects.unit answers q (.inl first)

theorem selects_iff_uniform (request : LookupRequest) (file : AwsBulkFile) (list : List (Option AwsBulkOffer)) :
    Selects request file list ↔ Uniform request file list := ⟨uniform_of_selects, selects_of_uniform⟩

end Agreement

section Hours

-- The library on the texts of the documents. Times count seconds from 1970.
@[reducible]
def hourlyLibrary : GoLibrary where
  fold := Char.toLower
  ParseFloat value := if value == "2" then some (.finite (JsNumber.ofNat 2)) else none
  Time := Int
  zero := -62135596800
  UTC := id
  Parse layout value :=
    if dateLayouts.head? = some layout ∧ value = "2026-01-01T00:00:00Z" then some 1767225600 else none

def ratedIn (unit : String) : PriceDimension := ⟨unit, "2026-01-01T00:00:00Z", ⟨[("USD", "2")], by simp⟩⟩

def meteredTerm : Term := ⟨⟨[("upfront", ratedIn "Quantity"), ("hours", ratedIn "Hrs")], by simp⟩⟩

def metered : GoMap (GoMap Term) := ⟨[("SKU", ⟨[("JRTCKXETXF", meteredTerm)], by simp⟩)], by simp⟩

def hourlyProduct : Product := ⟨⟨[("instanceType", "t3.micro")], by simp⟩⟩

def hourlyRequest : LookupRequest := ⟨"AmazonEC2", "eu-west-1", "t3.micro", "Hrs", "USD", "", ⟨[], List.nodup_nil⟩⟩

def hourlyFile : AwsBulkFile := ⟨⟨[("SKU", hourlyProduct)], by simp⟩, metered⟩

def hourlyList : List (Option AwsBulkOffer) := [some ⟨hourlyProduct, metered⟩]

omit [GoLibrary] in
theorem hourly_answers : letI := hourlyLibrary
    Answers hourlyRequest hourlyFile hourlyList := by
  let _ := hourlyLibrary
  refine ⟨["SKU"], by simp, ?_, .cons ⟨⟨hourlyProduct, metered⟩, rfl, rfl, ?_⟩ .nil⟩
  · intro sku
    rw [List.mem_singleton]
    constructor
    · rintro rfl
      exact ⟨hourlyProduct, rfl, by decide⟩
    · rintro ⟨p, here, -⟩
      have member := GoMap.get?_eq_some_iff.mp here
      unfold hourlyFile at member
      exact congrArg Prod.fst (List.mem_singleton.mp member)
  · intro key
    split
    · rename_i same
      subst same
      exact .some (SameTerms.refl _)
    · rename_i other
      have nowhere : metered.get? key = none := by
        unfold metered GoMap.get?
        rw [List.lookup_cons, beq_false_of_ne other, List.lookup_nil]
      change Option.Rel SameTerms none (metered.get? key)
      rw [nowhere]
      exact .none

omit [GoLibrary] in
theorem selection_ignores_unit : letI := hourlyLibrary
    ¬ ∀ request file list, Selects request file list := by
  let _ := hourlyLibrary
  intro selects
  have found : ∃ o, queryAPI hourlyRequest hourlyList = some o ∧ o.unit = "Quantity" := ⟨_, rfl, rfl⟩
  obtain ⟨o, found, unit⟩ := found
  have asked := (selects hourlyRequest hourlyFile hourlyList).unit hourly_answers o (.inl found)
  rw [unit] at asked
  revert asked
  decide

end Hours

end Provisr.Backend.Pricing
