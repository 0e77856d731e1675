import TransactionV1.Foundations.LastWrite
import TransactionV1.Foundations.InsertionMap
import TransactionV1.Foundations.LittleEndian
import TransactionV1.Foundations.Accumulation
import TransactionV1.Foundations.Word
import TransactionV1.Foundations.Fallible
import TransactionV1.Foundations.EventLoop
import TransactionV1.Foundations.Numeral
import TransactionV1.Foundations.Base58
import TransactionV1.Foundations.Base64
import TransactionV1.Foundations.Binary64
import TransactionV1.Foundations.Labelled
import TransactionV1.Foundations.Listeners
import TransactionV1.Foundations.Dialogue
import TransactionV1.Foundations.Protocol
import TransactionV1.Foundations.Assume
import TransactionV1.Foundations.StableSort
import TransactionV1.Message.Proto
import TransactionV1.Message.Version
import TransactionV1.Message.Text
import TransactionV1.Message.Rendering
import TransactionV1.TypeScript.BigInt
import TransactionV1.TypeScript.Number
import TransactionV1.TypeScript.Packages
import TransactionV1.TypeScript.Reference
import TransactionV1.Budget.Stated
import TransactionV1.Budget.Carried
import TransactionV1.Budget.Rust
import TransactionV1.Budget.Go
import TransactionV1.Budget.TypeScript
import TransactionV1.Budget.Agreement
import TransactionV1.Budget.RoundTrip
import TransactionV1.Budget.Influence
import TransactionV1.Budget.Order
import TransactionV1.Budget.Skipped
import TransactionV1.Budget.Fee
import TransactionV1.Budget.Ceiling
import TransactionV1.Budget.ReadPaths
import TransactionV1.Budget.Conversion
import TransactionV1.Indexer.Report
import TransactionV1.Indexer.Rust
import TransactionV1.Indexer.Go
import TransactionV1.Indexer.TypeScript
import TransactionV1.Indexer.Totals
import TransactionV1.Indexer.StopRule
import TransactionV1.Indexer.Malformed
import TransactionV1.Indexer.Exit
import TransactionV1.Indexer.Limit
import TransactionV1.Indexer.Stale
import TransactionV1.Indexer.Subscription
import TransactionV1.Feature
import TransactionV1.Feature.Written
import TransactionV1.Block.Report
import TransactionV1.Block.Tally
import TransactionV1.Wallets.Subscribe
import TransactionV1.Wallets.Table
import TransactionV1.Wallets.Page
import TransactionV1.Client.Rpc
import TransactionV1.Client.Waiting
import TransactionV1.Client.Landing
import TransactionV1.Client.Go
import TransactionV1.Client.Python
import TransactionV1.Client.Rust
import TransactionV1.Client.TypeScript
import TransactionV1.Client.Agreement
import TransactionV1.Client.Completion
import TransactionV1.Client.GetBlock.Ladder
import TransactionV1.Client.SendDecode.Shape
import TransactionV1.Client.SendDecode.Go
import TransactionV1.Client.SendDecode.Python
import TransactionV1.Client.SendDecode.Rust
import TransactionV1.Client.SendDecode.TypeScript
import TransactionV1.Client.GetBlock.Rust
import TransactionV1.Client.GetBlock.Go
import TransactionV1.Client.GetBlock.Python
import TransactionV1.Client.GetBlock.TypeScript
import TransactionV1.Client.Nonce
import TransactionV1.Client.ReadTransaction
import TransactionV1.Web3.Signers
import TransactionV1.Web3.Connection
import TransactionV1.Web3.InTurn
import TransactionV1.Web3.Confidential
import TransactionV1.Web3.SendDecode
