import ClaudeCodeProxy.Effects.Faults
import ClaudeCodeProxy.Models.Domain
import ClaudeCodeProxy.Models.Errors
import ClaudeCodeProxy.Store.Table

namespace ClaudeCodeProxy

open Effects Store

abbrev PricingCatalog : Type := Table ModelPricingRecord.id

structure PricingCatalogUpdateRequest where
  provider : String
  modelId : String
  inputCostPerMillion : Rat
  outputCostPerMillion : Rat
  cacheWriteInputCostPerMillion : Rat := 0
  cacheReadInputCostPerMillion : Rat := 0
  currency : String := "USD"
  effectiveFrom : Option Int := none
  effectiveTo : Option Int := none

-- What the service asks of the pricing store and of the reload notifier.
inductive PricingCall
  | UpsertPricing (record : ModelPricingRecord)
  | Reload

@[reducible] def pricingCalls : Signature := ⟨PricingCall, fun _ => Unit⟩

def pricingCall (op : PricingCall) : Program pricingCalls Failure Unit :=
  @Program.perform pricingCalls Failure op

namespace ModelMappingAdminService

def pricingRecord (pricingId : String) (request : PricingCatalogUpdateRequest) :
    ModelPricingRecord where
  id := pricingId
  provider := request.provider
  modelId := request.modelId
  inputCostPerMillion := request.inputCostPerMillion
  outputCostPerMillion := request.outputCostPerMillion
  cacheWriteInputCostPerMillion := request.cacheWriteInputCostPerMillion
  cacheReadInputCostPerMillion := request.cacheReadInputCostPerMillion
  currency := request.currency
  effectiveFrom := request.effectiveFrom
  effectiveTo := request.effectiveTo

def updatePricingCatalog (pricingId : String) (request : PricingCatalogUpdateRequest) :
    Program pricingCalls Failure ModelPricingRecord := do
  let record := pricingRecord pricingId request
  pricingCall (.UpsertPricing record)
  pricingCall .Reload
  return record

end ModelMappingAdminService

-- The rows of the catalog, and those that the pricing repository has loaded.
structure PricingStores where
  catalog : PricingCatalog
  loaded : List ModelPricingRecord

def PricingStores.reload (stores : PricingStores) : PricingStores :=
  { stores with loaded := stores.catalog.rows }

def PricingStores.save (stores : PricingStores) (record : ModelPricingRecord) : PricingStores :=
  { stores with catalog := stores.catalog.save record }

def handlePricing : Handler pricingCalls Failure PricingStores
  | .UpsertPricing record, stores => (.ok (), stores.save record)
  | .Reload, stores => (.ok (), stores.reload)

-- The stores after an update, any call of which may raise.
def PricingStores.update (stores : PricingStores) (pricingId : String)
    (request : PricingCatalogUpdateRequest) (faults : Nat → Option Failure) : PricingStores :=
  ((ModelMappingAdminService.updatePricingCatalog pricingId request).run
    (handlePricing.faulty faults) (stores, 0)).2.1

-- An update that the store refuses changes nothing. Otherwise the row is in the
-- catalog, whether it is loaded at once or not.
theorem PricingStores.update_cases (stores : PricingStores) (pricingId : String)
    (request : PricingCatalogUpdateRequest) (faults : Nat → Option Failure) :
    (faults 0 ≠ none ∧ stores.update pricingId request faults = stores) ∨
    faults 0 = none ∧
      ((stores.update pricingId request faults).loaded = stores.loaded ∨
        (stores.update pricingId request faults).loaded =
          (stores.update pricingId request faults).catalog.rows) ∧
      (stores.update pricingId request faults).catalog =
        stores.catalog.save (ModelMappingAdminService.pricingRecord pricingId request) := by
  unfold update ModelMappingAdminService.updatePricingCatalog
  cases hstore : faults 0 with
  | some error =>
      left
      exact ⟨Option.some_ne_none error, by
        simp [pricingCall, Program.perform, Program.run, Handler.faulty, hstore]⟩
  | none =>
      right
      refine ⟨rfl, ?_⟩
      cases hreload : faults 1 with
      | some error =>
          simp [pricingCall, Program.perform, Program.run, Handler.faulty, handlePricing, save,
            hstore, hreload]
      | none =>
          simp [pricingCall, Program.perform, Program.run, Handler.faulty, handlePricing, save,
            reload, hstore, hreload]

end ClaudeCodeProxy
