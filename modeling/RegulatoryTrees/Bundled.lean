import RegulatoryTrees.Tree

/-!
# Rules that come with the library

Three rules on tokens and stablecoins, one for each of three jurisdictions.
-/

namespace RegulatoryTrees

namespace Bundled

/-- What nodes of these rules have in common. -/
def header (id : String) (label : Option String) (source : Option SourceRef) : Header := ⟨id, label, source, [], none⟩

/-- A leaf. -/
def leaf (id decision : String) (status : Status) (obligations : List String) : Node :=
  .leaf ⟨header id none none, decision, status, obligations, none⟩

/-- A condition that asks whether a fact has a value. -/
def equals (id label fact : String) (value : Value) (source : Option SourceRef) (whenTrue whenFalse : Node) : Node :=
  .condition (header id (some label) source) ⟨fact, Operator.eq.name, value⟩ none whenTrue whenFalse

/-- An article of the regulation on markets in crypto-assets. -/
def micaArticle (article : String) : SourceRef := ⟨"mica_2023", some article, none, [], [], none⟩

/-- The stablecoin regime of the United Kingdom. -/
def ukStablecoin : Rule where
  id := "fca-stablecoin-regime"
  version := "1.0"
  name := "FCA qualifying stablecoin regime"
  description := some "Promotion and notification requirements for stablecoin offers in the UK."
  metadata := ⟨"UK", "FCA Crypto 2024", some "2024-01-08", none, ["fca", "stablecoin"], []⟩
  tree :=
    equals "uk_scope" "Qualifying stablecoin" "instrument.type" (.text "stablecoin") none
      (equals "uk_retail" "Offer targets retail investors" "offer.retail" (.bool true) none
        (leaf "uk_retail_offer" "Treated as a qualifying stablecoin" .requiresAction [
          "Retail prohibition applies to unauthorised promotions",
          "Notify the FCA 60 days before launch"])
        (leaf "uk_wholesale_offer" "Treated as a qualifying stablecoin" .compliant [
          "Registration exempt for wholesale-only offers"]))
      (leaf "uk_out_of_scope" "No FCA stablecoin rules apply" .noApplicableRules [])

/-- The authorisation of stablecoin offers in the European Union. -/
def euStablecoin : Rule where
  id := "mica-stablecoin-auth"
  version := "1.2"
  name := "MiCA stablecoin public offer authorisation"
  description := some "Authorisation and disclosure requirements for public offers of stablecoins in the EU."
  metadata := ⟨"EU", "MiCA 2023", some "2024-06-30", none, ["mica", "stablecoin", "authorization"], []⟩
  tree :=
    .condition (header "eu_scope" (some "Instrument in MiCA stablecoin scope") (some (micaArticle "3(1)")))
      ⟨"instrument.type", Operator.isIn.name,
        .list [.text "stablecoin", .text "e_money_token", .text "asset_referenced_token"]⟩ none
      (equals "eu_authorized" "Issuer authorised" "issuer.authorized" (.bool true) (some (micaArticle "48(1)"))
        (equals "eu_retail" "Offer targets retail investors" "offer.retail" (.bool true) none
          (leaf "eu_retail_offer" "Classified as e-money token under MiCA" .requiresAction [
            "Publish crypto-asset whitepaper",
            "Retail allowed with mandatory risk warning",
            "Notify competent authority 20 days before offer"])
          (leaf "eu_professional_offer" "Classified as e-money token under MiCA" .compliant [
            "Publish crypto-asset whitepaper"]))
        (leaf "eu_unauthorized" "Authorisation required before public offer" .blocked [
          "Must register with national competent authority"]))
      (leaf "eu_out_of_scope" "No MiCA stablecoin rules apply" .noApplicableRules [])

/-- The registration of token offerings in the United States. -/
def usTokenOffering : Rule where
  id := "sec-token-offering"
  version := "1.0"
  name := "SEC token offering registration"
  description := none
  metadata := ⟨"US", "Securities Act 1933", some "1933-05-27", none, [], [("authority", .text "SEC")]⟩
  tree :=
    equals "us_investment_contract" "Investment contract (Howey)" "instrument.investment_contract" (.bool true) none
      (equals "us_accredited_only" "Accredited investors only" "offer.accredited_only" (.bool true) none
        (leaf "us_reg_d" "Treated as a security offered under Regulation D" .compliant [
          "File Form D within 15 days of first sale"])
        (leaf "us_registered_offering" "Treated as a security" .requiresAction [
          "Must register the offering with the SEC"]))
      (leaf "us_not_security" "Not a security offering" .compliant [])

/-- All rules that come with the library. -/
def rules : List Rule := [ukStablecoin, euStablecoin, usTokenOffering]

end Bundled

end RegulatoryTrees
