import BillingConsole.Account
import BillingConsole.Browser.Base
import BillingConsole.Browser.Basic
import BillingConsole.Browser.Tokens
import BillingConsole.Calendar.Clock
import BillingConsole.Calendar.Date
import BillingConsole.Calendar.DateText
import BillingConsole.Calendar.Range
import BillingConsole.Console.Basic
import BillingConsole.Console.Effect
import BillingConsole.Console.Host
import BillingConsole.Console.Restore
import BillingConsole.Console.Stage
import BillingConsole.Customer
import BillingConsole.Entries
import BillingConsole.Export.Csv
import BillingConsole.Export.Download
import BillingConsole.Gateway.Address
import BillingConsole.Gateway.Error
import BillingConsole.Gateway.Request
import BillingConsole.Json.Decoder
import BillingConsole.Json.Error
import BillingConsole.Json.Literal
import BillingConsole.Json.Printer
import BillingConsole.Json.Reader
import BillingConsole.Json.Tree
import BillingConsole.Load.CustomerList
import BillingConsole.Load.Outcome
import BillingConsole.Load.SpendPanel
import BillingConsole.Money
import BillingConsole.Number.Binary64
import BillingConsole.Number.Fixed
import BillingConsole.Number.Literal
import BillingConsole.Number.Rounding
import BillingConsole.Number.Shortest
import BillingConsole.Preview.CustomerList
import BillingConsole.Preview.CustomerTable
import BillingConsole.Preview.DateRange
import BillingConsole.Preview.Guard
import BillingConsole.Preview.Pager
import BillingConsole.Role
import BillingConsole.Screen.Billing
import BillingConsole.Screen.CustomerTable
import BillingConsole.Screen.Detail
import BillingConsole.Screen.Rows
import BillingConsole.Screen.SignIn
import BillingConsole.Screen.Spend
import BillingConsole.Session
import BillingConsole.Spend
import BillingConsole.Text.Blank
import BillingConsole.Text.CaseTable
import BillingConsole.Text.Lowercase
import BillingConsole.Text.Percent
import BillingConsole.Text.PrintableTable
import BillingConsole.Text.Quoted
import BillingConsole.Text.Search
import BillingConsole.Ticket
import BillingConsole.View.Action
import BillingConsole.View.Basic
import BillingConsole.View.Html
import BillingConsole.View.Icon
import BillingConsole.View.Lines
import BillingConsole.Widget.DateRange
import BillingConsole.Widget.Pager
import BillingConsole.Widget.StatCard
import BillingConsole.Wire.Account
import BillingConsole.Wire.Customer
import BillingConsole.Wire.Spend
import BillingConsole.Proofs.Load.CustomerList
import BillingConsole.Proofs.Browser.Tokens
import BillingConsole.Proofs.Text.Ends
import BillingConsole.Proofs.Calendar.DateText
import BillingConsole.Proofs.Console.Host
import BillingConsole.Proofs.Console.Run
import BillingConsole.Proofs.Console.Session
import BillingConsole.Proofs.Load.SpendPanel
import BillingConsole.Proofs.Screen.Spend
import BillingConsole.Proofs.Export.Csv
import BillingConsole.Proofs.Gateway.Billing
import BillingConsole.Proofs.Screen.Requests
import BillingConsole.Proofs.Console.Turn
import BillingConsole.Proofs.Console.Record
import BillingConsole.Proofs.Console.Named
import BillingConsole.Proofs.View.Lines
import BillingConsole.Proofs.Console.Gate
import BillingConsole.Proofs.Console.Crossing
import BillingConsole.Proofs.Text.Percent
import BillingConsole.Proofs.Gateway.Query
import BillingConsole.Proofs.Screen.Rows
import BillingConsole.Proofs.Screen.Detail
import BillingConsole.Proofs.Console.Page
import BillingConsole.Proofs.Console.Tables
import BillingConsole.Proofs.Console.Detail
import BillingConsole.Proofs.Json.Number
import BillingConsole.Proofs.Json.Text
import BillingConsole.Proofs.Json.Document
import BillingConsole.Proofs.Number.Finite
import BillingConsole.Proofs.Json.Double
import BillingConsole.Proofs.Json.Survival
import BillingConsole.Proofs.Json.Record
import BillingConsole.Proofs.Wire.Customer
import BillingConsole.Proofs.Wire.Spend
import BillingConsole.Proofs.Wire.Account
import BillingConsole.Proofs.Wire.RoundTrip
import BillingConsole.Proofs.Json.Kind
import BillingConsole.Proofs.Json.Spelling
import BillingConsole.Proofs.Wire.Spelling
import BillingConsole.Proofs.Widget.Pager
import BillingConsole.Proofs.Screen.Paging
import BillingConsole.Proofs.Console.SessionRequests
import BillingConsole.Proofs.Console.Restore
import BillingConsole.Proofs.Console.Outage
import BillingConsole.Proofs.Text.Lowercase
import BillingConsole.Proofs.Customer.Search
import BillingConsole.Proofs.Number.Hundredths
import BillingConsole.Proofs.Money.Grouping
import BillingConsole.Proofs.Money.Usd
import BillingConsole.Proofs.Export.Amounts
import BillingConsole.Proofs.Calendar.Order
import BillingConsole.Proofs.Calendar.DayNumber
import BillingConsole.Proofs.Calendar.Months
import BillingConsole.Proofs.Calendar.DateField
import BillingConsole.Proofs.Calendar.Bounds
import BillingConsole.Proofs.Gateway.Segment
import BillingConsole.Proofs.Gateway.DotSegments
import BillingConsole.Proofs.Gateway.Base
import BillingConsole.Proofs.Json.Place
import BillingConsole.Proofs.Json.Table
import BillingConsole.Proofs.Money.Thousands
import BillingConsole.Proofs.Wire.Models
import BillingConsole.Proofs.Calendar.Window
import BillingConsole.Proofs.Export.Leftovers
import BillingConsole.Proofs.Load.Stray
