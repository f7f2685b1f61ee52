import BotTypings.Main
import BotTypings.Schema.Writing
import BotTypings.Proofs.Declaration.Names
import BotTypings.Proofs.TypeText.Listed
import BotTypings.Proofs.Patch.Rerun
import BotTypings.Proofs.TypeText.Standing
import BotTypings.Proofs.TypeText.Admission
import BotTypings.Proofs.Declaration.Anonymous
import BotTypings.Proofs.Declaration.Members
import BotTypings.Proofs.Declaration.Calls
import BotTypings.Proofs.Schema.Members
import BotTypings.Proofs.Schema.Accepted
import BotTypings.Proofs.Schema.Tags
import BotTypings.Proofs.Schema.Rewriting
import BotTypings.Proofs.Declaration.Documented
import BotTypings.Proofs.Patch.ListedColors
import BotTypings.Proofs.Patch.Order
import BotTypings.Proofs.Command.Verdicts
import BotTypings.Proofs.Declaration.References
import BotTypings.Proofs.Schema.Unwritable
import BotTypings.Proofs.Schema.History
import BotTypings.Proofs.FileTree.Directories
import BotTypings.Proofs.Command.Generating
import BotTypings.Proofs.TypeText.Grammar
import BotTypings.Proofs.TypeText.Rendered
import BotTypings.Proofs.TypeText.Reparsed
import BotTypings.Proofs.TypeText.Qualified
import BotTypings.Proofs.Declaration.LiteralUnions
import BotTypings.Proofs.TypeText.QuotedLiterals
import BotTypings.Proofs.Declaration.Assembly
import BotTypings.Proofs.Patch.InPlace
import BotTypings.Proofs.Declaration.Currencies
import BotTypings.Proofs.Declaration.DeclaredNames
import BotTypings.Proofs.Currency
import BotTypings.Proofs.Declaration.DocumentationLines
