import AccessAudit.Dictionary
import AccessAudit.Interaction.Event
import AccessAudit.Interaction.Interactivity
import AccessAudit.Json.Basic
import AccessAudit.Json.NumberReader
import AccessAudit.Json.Reader
import AccessAudit.Json.Writer
import AccessAudit.Lint.Config
import AccessAudit.Lint.ConfigText
import AccessAudit.Lint.Exemption
import AccessAudit.Lint.Finding
import AccessAudit.Lint.Level
import AccessAudit.Lint.Linter
import AccessAudit.Lint.Options
import AccessAudit.Lint.Profile
import AccessAudit.Lint.Rule
import AccessAudit.Lint.Rule.HandlerPlacement
import AccessAudit.Lint.Rule.ImageText
import AccessAudit.Lint.Rule.PropertyName
import AccessAudit.Lint.Rule.PropertyValue
import AccessAudit.Lint.Rule.RequiredProperty
import AccessAudit.Lint.Rule.RoleName
import AccessAudit.Lint.Rule.RoleRedundancy
import AccessAudit.Lint.Rule.TabOrder
import AccessAudit.Log
import AccessAudit.Markup.Attribute
import AccessAudit.Markup.Document
import AccessAudit.Markup.Element
import AccessAudit.Markup.Vocabulary
import AccessAudit.Number.Basic
import AccessAudit.Number.Decimal
import AccessAudit.Number.Numeral
import AccessAudit.Proofs.Document.Append
import AccessAudit.Proofs.Document.Construction
import AccessAudit.Proofs.Document.Insertion
import AccessAudit.Proofs.Document.Lineage
import AccessAudit.Proofs.Document.Order
import AccessAudit.Proofs.Document.Permanence
import AccessAudit.Proofs.Interaction.Classification
import AccessAudit.Proofs.Interaction.RoleSet
import AccessAudit.Proofs.Interaction.StatedRole
import AccessAudit.Proofs.Json.Agreement
import AccessAudit.Proofs.Lint.Activation
import AccessAudit.Proofs.Lint.AttributeOrder
import AccessAudit.Proofs.Lint.ConfigForm
import AccessAudit.Proofs.Lint.ConfigText
import AccessAudit.Proofs.Lint.Conservative
import AccessAudit.Proofs.Lint.Exemption
import AccessAudit.Proofs.Lint.Independence
import AccessAudit.Proofs.Lint.LetterCase
import AccessAudit.Proofs.Lint.Likeness
import AccessAudit.Proofs.Lint.Objection
import AccessAudit.Proofs.Lint.OptionContent
import AccessAudit.Proofs.Lint.OptionForm
import AccessAudit.Proofs.Lint.PropertyNamespace
import AccessAudit.Proofs.Lint.Refusal
import AccessAudit.Proofs.Lint.Remedy
import AccessAudit.Proofs.Lint.ReportOrder
import AccessAudit.Proofs.Lint.Resolution
import AccessAudit.Proofs.Lint.RoleAgreement
import AccessAudit.Proofs.Lint.Shadowing
import AccessAudit.Proofs.Lint.Strictness
import AccessAudit.Proofs.Number.Complement
import AccessAudit.Proofs.Number.Decimal
import AccessAudit.Proofs.Number.Grammar
import AccessAudit.Proofs.Number.Integer
import AccessAudit.Proofs.Number.Nearest
import AccessAudit.Proofs.Number.Radix
import AccessAudit.Proofs.Number.ReadBack
import AccessAudit.Proofs.Number.Rounding
import AccessAudit.Proofs.Number.Text
import AccessAudit.Proofs.Property.Numeric
import AccessAudit.Proofs.Property.TokenList
import AccessAudit.Proofs.Role.Ancestry
import AccessAudit.Proofs.Role.AncestryOrder
import AccessAudit.Proofs.Role.Implicit
import AccessAudit.Proofs.Role.Ontology
import AccessAudit.Proofs.Role.Specificity
import AccessAudit.Proofs.Role.Standard
import AccessAudit.Proofs.Script.PrefixOperator
import AccessAudit.Proofs.Text.LetterCase
import AccessAudit.Proofs.Text.Words
import AccessAudit.Property.Catalogue
import AccessAudit.Property.Type
import AccessAudit.Role.Ancestry
import AccessAudit.Role.Declaration
import AccessAudit.Role.Implicit
import AccessAudit.Role.Ontology
import AccessAudit.Role.Standard
import AccessAudit.Script.Expression
import AccessAudit.Script.Value
import AccessAudit.Text.Ascii
import AccessAudit.Text.Blank
import AccessAudit.Text.Quoted
import AccessAudit.Text.Unshown
