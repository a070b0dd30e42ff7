import GrapheneMaintenance.Machine
import GrapheneMaintenance.Database
import GrapheneMaintenance.Sorting
import GrapheneMaintenance.DesiredCount
import GrapheneMaintenance.NextMaintenance
import GrapheneMaintenance.Fba
import GrapheneMaintenance.Workers
import GrapheneMaintenance.Budget
import GrapheneMaintenance.Election
import GrapheneMaintenance.Authority
import GrapheneMaintenance.VoteTally
import GrapheneMaintenance.MatureBalances
import GrapheneMaintenance.Cheques
import GrapheneMaintenance.Funds
import GrapheneMaintenance.Bonuses
import GrapheneMaintenance.IssueBonuses
import GrapheneMaintenance.BonusesBefore620
import GrapheneMaintenance.Buyback
import GrapheneMaintenance.TopHolders
import GrapheneMaintenance.Pass
import GrapheneMaintenance.PassOutcome
import GrapheneMaintenance.BudgetHistory
